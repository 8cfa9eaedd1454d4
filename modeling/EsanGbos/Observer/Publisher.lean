import EsanGbos.Lib.Prog
import EsanGbos.Observer.Transitions

/-!
# Publishing from the outbox

`ContextOutboxPublisherWorker.run_once` reads the clock once, claims a row, hands its event to
the publisher and marks the row with the time it has read. Runs share the outbox and the time,
which passes between their calls. What a run was given by its claim is kept beside them; no call
reads it.

A run that is killed, or whose connection breaks, is one that makes no further call.

## Main definitions

* `ContextOutboxPublisherWorker.runOnce` — the run.
* `Publishing.exec` — the effect of a call.
* `Publishing.Claims`, `Publishing.Marks` — what a claim and a mark do.
-/
namespace EsanGbos.Observer
open Lib

/-- The calls of a run. -/
inductive PublisherCall where
  | clock
  | claimContextOutbox (scope : TenantScope) (workerId : String) (now : Datetime)
      (leaseSeconds : ℤ)
  | publish (scope : TenantScope) (observationEventId idempotencyKey : String)
  | markContextOutbox (scope : TenantScope) (outboxId workerId : String) (now : Datetime)
      (isPublished : Bool) (errorCode : Option String) (nextRetryAt : Option (Option Datetime))

/-- What comes back of a call. -/
@[reducible] def PublisherCall.Answer : PublisherCall → Type
  | clock => Option Datetime
  | claimContextOutbox _ _ _ _ => Option (String × OutboxRow)
  | publish _ _ _ => Unit
  | markContextOutbox _ _ _ _ _ _ _ => OutboxRow

abbrev PublisherRun := Prog PublisherCall PublisherCall.Answer Raise

namespace ContextOutboxStorage
open Prog (invoke)

def clock : PublisherRun (Option Datetime) := invoke PublisherCall.clock

def claimContextOutbox (scope : TenantScope) (workerId : String) (now : Datetime)
    (leaseSeconds : ℤ) : PublisherRun (Option (String × OutboxRow)) :=
  invoke (PublisherCall.claimContextOutbox scope workerId now leaseSeconds)

def publish (scope : TenantScope) (observationEventId idempotencyKey : String) :
    PublisherRun Unit :=
  invoke (PublisherCall.publish scope observationEventId idempotencyKey)

def markContextOutbox (scope : TenantScope) (outboxId workerId : String) (now : Datetime)
    (isPublished : Bool) (errorCode : Option String) (nextRetryAt : Option (Option Datetime)) :
    PublisherRun OutboxRow :=
  invoke (PublisherCall.markContextOutbox scope outboxId workerId now isPublished errorCode
    nextRetryAt)

end ContextOutboxStorage

structure ContextPublicationResult where
  outboxId : String
  observationEventId : String
  status : OutboxStatus
deriving DecidableEq, Repr

structure ContextOutboxPublisherWorker where
  workerId : String
  leaseSeconds : ℤ
  retryDelaySeconds : ℤ
  workerId_ok : isIdentifier 256 workerId = true
  leaseSeconds_mem : 1 ≤ leaseSeconds ∧ leaseSeconds ≤ 86400
  retryDelaySeconds_mem : 1 ≤ retryDelaySeconds ∧ retryDelaySeconds ≤ 86400

namespace ContextOutboxPublisherWorker
open ContextOutboxStorage
variable (worker : ContextOutboxPublisherWorker)

/-- `_now`. -/
def now : PublisherRun Datetime := do
  match ← clock with
  | none => .done (.error (.valueError "clock must be timezone-aware"))
  | some now => return now

/-- `run_once` after the publisher has raised. -/
def markUnpublished (scope : TenantScope) (now : Datetime) (outboxId : String) (row : OutboxRow) :
    PublisherRun ContextPublicationResult :=
  match plus now (seconds worker.retryDelaySeconds) with
  | .error e => .done (.error e)
  | .ok nextRetryAt => do
      let marked ← markContextOutbox scope outboxId worker.workerId now false
        (some "context_publication_failed") (some (some nextRetryAt))
      return ⟨outboxId, row.observationEventId, marked.status⟩

/-- `run_once` after the publisher has returned. -/
def markPublished (scope : TenantScope) (now : Datetime) (outboxId : String) (row : OutboxRow) :
    PublisherRun ContextPublicationResult := do
  let _ ← markContextOutbox scope outboxId worker.workerId now true none none
  return ⟨outboxId, row.observationEventId, .published⟩

/-- `run_once` with the row that was claimed. -/
def publishClaimed (scope : TenantScope) (now : Datetime) (outboxId : String) (row : OutboxRow) :
    PublisherRun ContextPublicationResult := do
  if row.status ≠ .leased ∨ row.lease.map (·.owner) ≠ some worker.workerId then
    .done (.error (.runtimeError "outbox claim crossed its site or lease boundary"))
  else
    match ← (publish scope row.observationEventId row.idempotencyKey).attempt with
    | .error _ => worker.markUnpublished scope now outboxId row
    | .ok _ => worker.markPublished scope now outboxId row

/-- `run_once`. -/
def runOnce (scope : TenantScope) : PublisherRun (Option ContextPublicationResult) := do
  let now ← now
  match ← claimContextOutbox scope worker.workerId now worker.leaseSeconds with
  | none => return none
  | some (outboxId, row) =>
      let result ← worker.publishClaimed scope now outboxId row
      return some result

/-- The runs of the workers: a worker and a scope each. -/
def program (run : ContextOutboxPublisherWorker × TenantScope) :
    PublisherRun (Option ContextPublicationResult) := run.1.runOnce run.2

end ContextOutboxPublisherWorker

/-! ## Effects -/

/-- What the environment decides about a call: whether the clock tells a time zone, and what the
publisher does. -/
structure PublisherChoice where
  isAware : Bool := true
  published : Except Raise Unit := .ok ()

/-- A claim that a run was given. -/
structure Claimed where
  id : String × String
  row : OutboxRow

/-- The outbox, the time, and the claims of the runs. -/
structure Publishing (ι : Type) where
  outbox : Outbox
  time : Datetime
  claims : ι → Option Claimed

/-- What is no run's doing: time passes, an event is recorded, a row is enqueued. -/
inductive PublisherCommand where
  | tick (time : Datetime)
  | recordEvent (site eventId : String) (purpose : ProcessingPurpose)
  | enqueueContextOutbox (scope : TenantScope)
      (outboxId observationEventId idempotencyKey payloadDigest : String) (now : Option Datetime)
      (maxAttempts : ℤ)

namespace Publishing
variable {ι : Type} [DecidableEq ι] (py : Stdlib) (collation : Collation)

/-- The claims after the run `i` was answered. -/
def remember (i : ι) (site : String) (claims : ι → Option Claimed) :
    Except Raise (Option (String × OutboxRow)) → ι → Option Claimed
  | .ok (some (outboxId, row)) => Function.update claims i (some ⟨(site, outboxId), row⟩)
  | _ => claims

/-- The effect of a call. -/
def exec (i : ι) (x : PublisherChoice) :
    (c : PublisherCall) → Publishing ι → Except Raise c.Answer × Publishing ι
  | .clock, s => (.ok (if x.isAware then some s.time else none), s)
  | .claimContextOutbox scope workerId now leaseSeconds, s =>
      let result := (Outbox.claimContextOutbox collation scope workerId (some now) leaseSeconds).run
        s.outbox
      (result.1, { s with
        outbox := result.2, claims := remember i scope.siteId s.claims result.1 })
  | .publish _ _ _, s => (x.published, s)
  | .markContextOutbox scope outboxId workerId now isPublished errorCode nextRetryAt, s =>
      let result := (Outbox.markContextOutbox py scope outboxId workerId (some now) isPublished
        errorCode nextRetryAt).run s.outbox
      (result.1, { s with outbox := result.2 })

omit [DecidableEq ι] in
/-- The time does not go back. -/
def command (c : PublisherCommand) (s : Publishing ι) : Publishing ι :=
  match c with
  | .tick time => if s.time.instant ≤ time.instant then { s with time } else s
  | .recordEvent site eventId purpose =>
      { s with outbox := ((Outbox.recordEvent site eventId purpose).run s.outbox).2 }
  | .enqueueContextOutbox scope outboxId observationEventId idempotencyKey payloadDigest now
      maxAttempts =>
      { s with outbox := ((Outbox.enqueueContextOutbox scope outboxId observationEventId
          idempotencyKey payloadDigest now maxAttempts).run s.outbox).2 }

/-! ## What a call can do -/

/-- A mark changes a row that is leased to its worker. -/
theorem markContextOutbox_cases {scope : TenantScope} {outboxId workerId : String} {now : Datetime}
    {isPublished : Bool} {errorCode : Option String} {nextRetryAt : Option (Option Datetime)}
    {s t : Outbox} {r : Except Raise OutboxRow}
    (ht : (Outbox.markContextOutbox py scope outboxId workerId (some now) isPublished errorCode
      nextRetryAt).run s = (r, t)) :
    t = s ∨ ∃ row row', s.rows.get? (scope.siteId, outboxId) = some row ∧
      Outbox.isOwned workerId now.instant row = true ∧ row'.attemptCount = row.attemptCount ∧
      row'.status ≠ .leased ∧ t.rows = s.rows.set (scope.siteId, outboxId) row' := by
  unfold Outbox.markContextOutbox at ht
  rw [Proc.run_lift_bind] at ht
  split at ht
  next a hchecked =>
    obtain ⟨now', failure⟩ := a
    obtain rfl := Option.some.inj (Outbox.validateMark_ok hchecked).1
    dsimp only at ht
    rw [Proc.run_atomically] at ht
    split at ht
    next row' t' h =>
      obtain ⟨-, rfl⟩ := Prod.mk.inj ht
      right
      cases failure with
      | none =>
          obtain ⟨row, hget, -, howned, rfl, rfl⟩ := Outbox.run_updateRow h
          exact ⟨row, Outbox.published row now, hget, howned, rfl, by simp [Outbox.published], rfl⟩
      | some failure =>
          obtain ⟨row, hget, -, howned, rfl, -, hrows, -⟩ := Outbox.run_updateFailed h
          refine ⟨row, Outbox.failed row failure.1 failure.2 now, hget, howned, rfl, ?_, hrows⟩
          by_cases hattempts : row.maxAttempts ≤ row.attemptCount <;> simp [Outbox.failed, hattempts]
    next => exact .inl (Prod.mk.inj ht).2.symm
  next => exact .inl (Prod.mk.inj ht).2.symm

/-- The run `i` claims a row that was due at `now`. -/
structure Claims (i : ι) (now : Datetime) (id : String × String) (row row' : OutboxRow)
    (s t : Publishing ι) : Prop where
  get : s.outbox.rows.get? id = some row
  due : Outbox.isDue now.instant row = true
  attempt : row'.attemptCount = row.attemptCount + 1
  status : row'.status = .leased
  rows : t.outbox.rows = s.outbox.rows.set id row'
  time : t.time = s.time
  claims : t.claims = Function.update s.claims i (some ⟨id, row'⟩)

omit [DecidableEq ι] in
/-- A worker marks a row that is leased to it beyond `now`. -/
structure Marks (workerId : String) (now : Datetime) (id : String × String) (row row' : OutboxRow)
    (s t : Publishing ι) : Prop where
  get : s.outbox.rows.get? id = some row
  owned : Outbox.isOwned workerId now.instant row = true
  attempt : row'.attemptCount = row.attemptCount
  status : row'.status ≠ .leased
  rows : t.outbox.rows = s.outbox.rows.set id row'
  time : t.time = s.time
  claims : t.claims = s.claims

theorem remember_of_none {i : ι} {site : String} {claims : ι → Option Claimed}
    {r : Except Raise (Option (String × OutboxRow))} (h : ∀ e, r ≠ .ok (some e)) :
    remember i site claims r = claims := by
  unfold remember
  split
  next outboxId row => exact absurd rfl (h (outboxId, row))
  next => rfl

/-- A claim answers with the row that it takes. -/
theorem exec_claimContextOutbox {i : ι} {x : PublisherChoice} {scope : TenantScope}
    {workerId : String} {now : Datetime} {leaseSeconds : ℤ} {s t : Publishing ι}
    {r : Except Raise (Option (String × OutboxRow))}
    (ht : exec py collation i x (.claimContextOutbox scope workerId now leaseSeconds) s = (r, t)) :
    (t = s ∧ ∀ e, r ≠ .ok (some e)) ∨ ∃ outboxId row row',
      Claims i now (scope.siteId, outboxId) row row' s t ∧ r = .ok (some (outboxId, row')) := by
  rcases hrun : (Outbox.claimContextOutbox collation scope workerId (some now)
    leaseSeconds).run s.outbox with ⟨r, outbox⟩
  simp only [exec, hrun, Prod.mk.injEq] at ht
  obtain ⟨rfl, rfl⟩ := ht
  obtain ⟨rfl, hnone⟩ | ⟨now', expiry, id, row, hnow, -, -, hsite, hget, -, hdue, rfl, rfl⟩ :=
    Outbox.claimContextOutbox_cases collation scope workerId (some now) leaseSeconds hrun
  · rw [remember_of_none hnone]
    exact .inl ⟨rfl, hnone⟩
  · obtain rfl := Option.some.inj hnow
    obtain ⟨site, outboxId⟩ := id
    obtain rfl : site = scope.siteId := hsite
    exact .inr ⟨outboxId, row, _, ⟨hget, hdue, rfl, rfl, rfl, rfl, rfl⟩, rfl⟩

theorem exec_markContextOutbox {i : ι} {x : PublisherChoice} {scope : TenantScope}
    {outboxId workerId : String} {now : Datetime} {isPublished : Bool} {errorCode : Option String}
    {nextRetryAt : Option (Option Datetime)} {s t : Publishing ι} {r : Except Raise OutboxRow}
    (ht : exec py collation i x (.markContextOutbox scope outboxId workerId now isPublished
      errorCode nextRetryAt) s = (r, t)) :
    t = s ∨ ∃ row row', Marks workerId now (scope.siteId, outboxId) row row' s t := by
  rcases hrun : (Outbox.markContextOutbox py scope outboxId workerId (some now) isPublished
    errorCode nextRetryAt).run s.outbox with ⟨r, outbox⟩
  simp only [exec, hrun, Prod.mk.injEq] at ht
  obtain ⟨rfl, rfl⟩ := ht
  obtain rfl | ⟨row, row', hget, howned, hattempt, hstatus, hrows⟩ :=
    markContextOutbox_cases py hrun
  · exact .inl rfl
  · exact .inr ⟨row, row', hget, howned, hattempt, hstatus, hrows, rfl, rfl⟩

end Publishing
end EsanGbos.Observer
