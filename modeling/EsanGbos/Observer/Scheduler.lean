import EsanGbos.Lib.Prog
import EsanGbos.Observer.Storage

/-!
# The polling scheduler

`DurablePollingScheduler.run_once` as a program over the calls of `PollingState`, and the
effect of each call on the database. The environment answers the clock and the poll, and
decides whether a call raises, before or after it takes effect.

## Main definitions

* `PollBatch` — an answer of the provider, with the checks of its constructor.
* `DurablePollingScheduler.runOnce` — one run.
* `Polling.exec` — the effect of one call.
-/
namespace EsanGbos.Observer
open Lib

/-! ## Batches -/

inductive PollDisposition where
  | ok | retry | pause | rejected
deriving DecidableEq, Repr

structure PollBatch where
  disposition : PollDisposition
  expectedCursor : Option String
  candidateCursor : Option String
  deliveries : List RawDelivery
  errorCode : Option String
  error_none : disposition = .ok → errorCode = none
  candidate_some : disposition = .ok → deliveries ≠ [] → candidateCursor.isSome = true
  error_some : disposition ≠ .ok →
    errorCode.any (fun code => code ≠ "" && code.toList.length ≤ 80) = true

structure PollRunResult where
  status : String
  acceptedCount : ℕ
  checkpointAdvanced : Bool
  safeErrorCode : Option String
deriving DecidableEq, Repr

/-! ## Calls -/

/-- The calls that a run makes: those of `PollingState`, the poll and the clock. -/
inductive PollingCall where
  | loadCheckpoint
  | acquire (owner : String) (now : Datetime) (leaseSeconds : ℤ)
  | release (owner : String) (now : Datetime)
  | acceptDelivery (delivery : RawDelivery)
  | advanceCheckpoint (expectedVersion : ℤ) (cursor : Option String) (now : Datetime)
  | updateHealth (status : ConnectorStatus) (errorCode : Option String) (now : Datetime)
  | poll (cursor : Option String) (limit : ℤ)
  | clock

def PollingCall.Answer : PollingCall → Type
  | loadCheckpoint => Option String × ℤ × ConnectorStatus
  | poll _ _ => PollBatch
  | clock => Option Datetime
  | _ => Unit

/-! ## Runs -/

abbrev PollingRun := Prog PollingCall PollingCall.Answer Raise

namespace PollingState
open Prog (invoke)

def loadCheckpoint : PollingRun (Option String × ℤ × ConnectorStatus) :=
  invoke PollingCall.loadCheckpoint

def acquire (owner : String) (now : Datetime) (leaseSeconds : ℤ) : PollingRun Unit :=
  invoke (PollingCall.acquire owner now leaseSeconds)

def release (owner : String) (now : Datetime) : PollingRun Unit :=
  invoke (PollingCall.release owner now)

def acceptDelivery (delivery : RawDelivery) : PollingRun Unit :=
  invoke (PollingCall.acceptDelivery delivery)

def advanceCheckpoint (expectedVersion : ℤ) (cursor : Option String) (now : Datetime) :
    PollingRun Unit :=
  invoke (PollingCall.advanceCheckpoint expectedVersion cursor now)

def updateHealth (status : ConnectorStatus) (errorCode : Option String) (now : Datetime) :
    PollingRun Unit :=
  invoke (PollingCall.updateHealth status errorCode now)

def poll (cursor : Option String) (limit : ℤ) : PollingRun PollBatch :=
  invoke (PollingCall.poll cursor limit)

def clock : PollingRun (Option Datetime) := invoke PollingCall.clock

end PollingState

/-- A scheduler of the connector `key`. -/
structure DurablePollingScheduler (key : ConnectorKey) where
  workerId : String
  leaseSeconds : ℤ
  key_ok : key.connector = .email ∨ key.connector = .wecom
  workerId_ok : isIdentifier 256 workerId = true
  leaseSeconds_mem : 1 ≤ leaseSeconds ∧ leaseSeconds ≤ 86400

namespace DurablePollingScheduler
open PollingState

/-- `_record_failure`. -/
def recordFailure (now : Datetime) (errorCode : String) (paused : Bool) :
    PollingRun PollRunResult := do
  updateHealth (if paused then .paused else .degraded) (some errorCode) now
  return ⟨if paused then "paused" else "retry", 0, false, some errorCode⟩

/-- The loop over `batch.deliveries`. -/
def acceptAll : List RawDelivery → PollingRun Unit
  | [] => return ()
  | delivery :: deliveries => do
      acceptDelivery delivery
      acceptAll deliveries

/-- The end of `_run_leased`. -/
def recordSuccess (now : Datetime) (accepted : ℕ) (advanced : Bool) :
    PollingRun PollRunResult := do
  updateHealth .healthy none now
  return ⟨"ok", accepted, advanced, none⟩

/-- `_run_leased` after the poll. -/
def runBatch (cursor : Option String) (version : ℤ) (now : Datetime) (batch : PollBatch) :
    PollingRun PollRunResult := do
  if batch.expectedCursor ≠ cursor then
    recordFailure now "checkpoint_candidate_mismatch" true
  else if batch.disposition ≠ .ok then
    recordFailure now (batch.errorCode.getD "poll_failed")
      (batch.disposition = .pause ∨ batch.disposition = .rejected)
  else
    match ← (acceptAll batch.deliveries).attempt with
    | .error _ => recordFailure now "durable_accept_failed" false
    | .ok _ =>
        if batch.deliveries = [] then
          recordSuccess now 0 false
        else
          match ← (advanceCheckpoint version batch.candidateCursor now).attempt with
          | .error _ => recordFailure now "checkpoint_conflict" false
          | .ok _ => recordSuccess now batch.deliveries.length true

/-- `_run_leased`. -/
def runLeased (cursor : Option String) (version : ℤ) (limit : ℤ) (now : Datetime) :
    PollingRun PollRunResult := do
  match ← (poll cursor limit).attempt with
  | .error _ => recordFailure now "poll_failed" false
  | .ok batch => runBatch cursor version now batch

/-- The run paused before it polled. -/
def pausedResult : PollRunResult := ⟨"paused", 0, false, some "connector_paused"⟩

/-- The body of the `try` that ends with the release of the lease. -/
def underLease (limit : ℤ) (now : Datetime) : PollingRun PollRunResult := do
  let (cursor, version, status) ← loadCheckpoint
  if status = .paused then return pausedResult
  else runLeased cursor version limit now

variable {key : ConnectorKey} (scheduler : DurablePollingScheduler key)

/-- `run_once`. -/
def runOnce (limit : ℤ) : PollingRun PollRunResult := do
  if ¬(1 ≤ limit ∧ limit ≤ 1000) then
    .done (.error (.valueError "limit must be between 1 and 1000"))
  else
    let (_, _, status) ← loadCheckpoint
    if status = .paused then return pausedResult
    else
      match ← clock with
      | none => .done (.error (.valueError "clock must be timezone-aware"))
      | some now =>
          match ← (acquire scheduler.workerId now scheduler.leaseSeconds).attempt with
          | .error _ => recordFailure now "lease_unavailable" false
          | .ok _ =>
              -- `finally`: an exception of the release replaces the outcome of the body.
              let result ← (underLease limit now).attempt
              release scheduler.workerId now
              .done result

end DurablePollingScheduler

/-- The runs of the schedulers of one connector: a scheduler and a limit each. -/
def DurablePollingScheduler.program {key : ConnectorKey} (run : DurablePollingScheduler key × ℤ) :
    PollingRun PollRunResult := run.1.runOnce run.2

/-! ## Effects -/

/-- A call raises, before or after it has taken effect. -/
inductive Fault where
  | before (e : Raise)
  | after (e : Raise)
deriving DecidableEq, Repr

/-- What the environment decides about a call. -/
structure PollingChoice where
  fault : Option Fault
  polled : Except Raise PollBatch
  clocked : Option Datetime

/-- The operator pauses or resumes the connector. -/
structure OperatorCommand where
  pause : Bool
  expectedRevision : ℕ
  idempotencyKey : String
  requestDigest : String
  now : Datetime

/-- The database, and the deliveries that have been accepted durably. -/
structure Polling where
  store : Store
  accepted : List String

namespace Polling
variable (scope : TenantScope) (key : ConnectorKey)

/-- An operation of the storage whose answer is dropped. -/
def runOp {α : Type} (op : Op α) (s : Polling) : Except Raise Unit × Polling :=
  let (r, store) := op.run s.store
  (r.map fun _ => (), { s with store })

/-- The effect of a call that the environment lets through: `PostgresPollingState`. -/
def perform (x : PollingChoice) : (c : PollingCall) → Polling → Except Raise c.Answer × Polling
  | .loadCheckpoint, s => (((Store.loadCheckpoint scope key).run s.store).1, s)
  | .acquire owner now leaseSeconds, s =>
      runOp (Store.acquireConnectorLease scope key owner (some now) leaseSeconds) s
  | .release owner now, s => runOp (Store.releaseConnectorLease scope key owner (some now)) s
  | .acceptDelivery delivery, s =>
      (.ok (), { s with accepted := delivery.deliveryId :: s.accepted })
  | .advanceCheckpoint expectedVersion cursor now, s =>
      runOp (Store.compareAndSwapCheckpoint scope key expectedVersion cursor (expectedVersion + 1)
        (some now)) s
  | .updateHealth status errorCode now, s =>
      runOp (Store.updateCheckpointHealth scope key status (some now)
        (if status = .healthy then some (some now) else none) errorCode) s
  | .poll _ _, s => (x.polled, s)
  | .clock, s => (.ok x.clocked, s)

/-- The effect of a call. -/
def exec (x : PollingChoice) (c : PollingCall) (s : Polling) : Except Raise c.Answer × Polling :=
  match x.fault with
  | none => perform scope key x c s
  | some (.before e) => (.error e, s)
  | some (.after e) => (.error e, (perform scope key x c s).2)

/-- The checkpoint of the connector. -/
def checkpoint (s : Polling) : Option Checkpoint := s.store.checkpoints.get? (instanceOf scope key)

/-- The operator's command, as a step of the database. -/
def command (c : OperatorCommand) (s : Polling) : Polling :=
  (runOp (Store.mutateStatus scope key c.pause c.expectedRevision c.idempotencyKey c.requestDigest
    c.now) s).2

/-! ## What a call can do -/

/-- What the runs of a pool see of the checkpoint. -/
structure View where
  status : ConnectorStatus
  cursor : Option String
  version : ℤ
deriving DecidableEq

def view (s : Polling) : Option View :=
  (s.checkpoint scope key).map fun row => ⟨row.status, row.cursorValue, row.checkpointVersion⟩

/-- Everything a call can do to the checkpoint and to the accepted deliveries. -/
inductive Effect : PollingCall → Polling → Polling → Prop where
  | keep (c : PollingCall) (s t : Polling) (hview : t.view scope key = s.view scope key)
      (haccepted : t.accepted = s.accepted) : Effect c s t
  | accept (delivery : RawDelivery) (s t : Polling) (hview : t.view scope key = s.view scope key)
      (haccepted : t.accepted = delivery.deliveryId :: s.accepted) :
      Effect (.acceptDelivery delivery) s t
  | advance (expectedVersion : ℤ) (cursor : Option String) (now : Datetime) (s t : Polling)
      (row : View) (hrow : s.view scope key = some row) (hversion : row.version = expectedVersion)
      (hview : t.view scope key = some ⟨row.status, cursor, expectedVersion + 1⟩)
      (haccepted : t.accepted = s.accepted) :
      Effect (.advanceCheckpoint expectedVersion cursor now) s t
  | record (status : ConnectorStatus) (errorCode : Option String) (now : Datetime)
      (s t : Polling) (row : View) (hrow : s.view scope key = some row)
      (hview : t.view scope key = some { row with status })
      (haccepted : t.accepted = s.accepted) :
      Effect (.updateHealth status errorCode now) s t

variable {scope key}

/-- A row that is rewritten is seen as `v` says. -/
theorem view_of_rewrites {R : Checkpoint → Checkpoint → Prop} {α : Type} {op : Op α} {s : Polling}
    (h : Store.Rewrites (instanceOf scope key) R s.store (op.run s.store).2) :
    (runOp op s).2.accepted = s.accepted ∧
      ((runOp op s).2.view scope key = s.view scope key ∨
        ∃ row row', R row row' ∧
          s.view scope key = some ⟨row.status, row.cursorValue, row.checkpointVersion⟩ ∧
          (runOp op s).2.view scope key =
            some ⟨row'.status, row'.cursorValue, row'.checkpointVersion⟩) := by
  refine ⟨rfl, ?_⟩
  obtain hsame | ⟨row, row', hget, hR, hset⟩ := h
  · left
    simp only [view, checkpoint, runOp, hsame]
  · right
    refine ⟨row, row', hR, ?_, ?_⟩
    · simp only [view, checkpoint, hget, Option.map_some]
    · simp only [view, checkpoint, runOp, hset, Dict.get?_set_self, Option.map_some]

variable (scope key) in
theorem perform_effect (x : PollingChoice) (c : PollingCall) (s : Polling) :
    Effect scope key c s (perform scope key x c s).2 := by
  cases c with
  | loadCheckpoint => exact .keep _ _ _ rfl rfl
  | poll cursor limit => exact .keep _ _ _ rfl rfl
  | clock => exact .keep _ _ _ rfl rfl
  | acceptDelivery delivery => exact .accept _ _ _ rfl rfl
  | acquire owner now leaseSeconds =>
      obtain ⟨haccepted, hview | ⟨row, row', hrow', hrow, hview⟩⟩ := view_of_rewrites
        (Store.rewrites_changeLease scope key (some now) s.store owner leaseSeconds "acquire"
          Store.mayAcquire)
      · exact .keep _ _ _ hview haccepted
      · rw [hrow'] at hview
        exact .keep _ _ _ (hview.trans hrow.symm) haccepted
  | release owner now =>
      obtain ⟨haccepted, hview | ⟨row, row', hrow', hrow, hview⟩⟩ := view_of_rewrites
        (Store.rewrites_releaseConnectorLease scope key (some now) s.store owner)
      · exact .keep _ _ _ hview haccepted
      · rw [hrow'] at hview
        exact .keep _ _ _ (hview.trans hrow.symm) haccepted
  | advanceCheckpoint expectedVersion cursor now =>
      obtain ⟨haccepted, hview | ⟨row, row', ⟨hversion, hrow'⟩, hrow, hview⟩⟩ := view_of_rewrites
        (Store.rewrites_compareAndSwapCheckpoint scope key (some now) s.store expectedVersion cursor
          (expectedVersion + 1))
      · exact .keep _ _ _ hview haccepted
      · rw [hrow'] at hview
        exact .advance _ _ _ _ _ _ hrow hversion hview haccepted
  | updateHealth status errorCode now =>
      obtain ⟨haccepted, hview | ⟨row, row', hrow', hrow, hview⟩⟩ := view_of_rewrites
        (Store.rewrites_updateCheckpointHealth scope key (some now) s.store status
          (if status = .healthy then some (some now) else none) errorCode)
      · exact .keep _ _ _ hview haccepted
      · rw [hrow'] at hview
        exact .record _ _ _ _ _ _ hrow hview haccepted

variable (scope key) in
theorem exec_effect (x : PollingChoice) (c : PollingCall) (s : Polling) :
    Effect scope key c s (exec scope key x c s).2 := by
  unfold exec
  split
  · exact perform_effect scope key x c s
  · exact .keep _ _ _ rfl rfl
  · exact perform_effect scope key x c s

/-- A call that answers has been let through. -/
theorem exec_ok {x : PollingChoice} {c : PollingCall} {s : Polling} {a : c.Answer}
    (h : (exec scope key x c s).1 = .ok a) : exec scope key x c s = perform scope key x c s := by
  unfold exec at h ⊢
  split at h
  · rfl
  · cases h
  · cases h

/-- What a load answers; a paused instance hides the status of the checkpoint. -/
theorem view_of_loadCheckpoint {s : Polling} {a : Option String × ℤ × ConnectorStatus}
    (h : ((Store.loadCheckpoint scope key).run s.store).1 = .ok a) :
    ∃ status, s.view scope key = some ⟨status, a.1, a.2.1⟩ ∧ (a.2.2 ≠ .paused → status = a.2.2) := by
  unfold Store.loadCheckpoint at h
  rw [Proc.run_get_bind] at h
  split at h
  next row connector hrow hconnector =>
    obtain rfl := Except.ok.inj h
    refine ⟨row.status, by simp only [view, checkpoint, hrow, Option.map_some], ?_⟩
    intro hstatus
    dsimp only at hstatus ⊢
    split at hstatus
    next => exact absurd rfl hstatus
    next hactive => rw [if_neg hactive]
  next => cases h

variable (scope key) in
/-- A command of the operator shows in the status alone. -/
theorem view_command (c : OperatorCommand) (s : Polling) :
    (command scope key c s).accepted = s.accepted ∧
      ((command scope key c s).view scope key = s.view scope key ∨
        ∃ row, s.view scope key = some row ∧ (command scope key c s).view scope key =
          some { row with status := if c.pause then .paused else .healthy }) := by
  refine ⟨rfl, ?_⟩
  obtain hsame | ⟨row, row', hget, hrow', hget'⟩ := Store.mutateStatus_checkpoint scope key c.pause
    c.expectedRevision c.idempotencyKey c.requestDigest c.now s.store
  · left
    simp only [view, checkpoint, command, runOp, hsame]
  · right
    refine ⟨⟨row.status, row.cursorValue, row.checkpointVersion⟩, ?_, ?_⟩
    · simp only [view, checkpoint, hget, Option.map_some]
    · simp only [view, checkpoint, command, runOp, hget', Option.map_some]
      rw [hrow']

/-! ## Runs of a mailbox -/

/-- The database after the registration of the mailbox. -/
def registered : Polling where
  store := ((Store.registerConnectorInstance acme mailbox (some newYear) 0 none none).run {}).2
  accepted := []

end Polling

/-- A batch without an error is accepted. -/
theorem ok_error_none : PollDisposition.ok = .ok → (none : Option String) = none := fun _ => rfl

theorem ok_error_some : PollDisposition.ok ≠ .ok →
    (none : Option String).any (fun code => code ≠ "" && code.toList.length ≤ 80) = true :=
  fun h => absurd rfl h

theorem isIdentifier_a : isIdentifier 256 "a" = true := by decide
theorem isIdentifier_b : isIdentifier 256 "b" = true := by decide

theorem mailbox_polled : mailbox.connector = .email ∨ mailbox.connector = .wecom := .inl rfl
theorem minute_leased : 1 ≤ (60 : ℤ) ∧ (60 : ℤ) ≤ 86400 := by decide

def poller (workerId : String) (h : isIdentifier 256 workerId = true := by decide) :
    DurablePollingScheduler mailbox × ℤ :=
  (⟨workerId, 60, mailbox_polled, h, minute_leased⟩, 10)

end EsanGbos.Observer
