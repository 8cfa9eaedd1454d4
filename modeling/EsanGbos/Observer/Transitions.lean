import EsanGbos.Observer.Outbox

/-!
# What a call does to the outbox

A call of either repository enqueues a row, takes one row through one of a few transitions, or
changes no row.

## Main definitions

* `Outbox.Transition` — the transitions of a row.
* `Outbox.Move` — the moves of a call; `Outbox.perform_move` says that every call makes one.
-/
namespace EsanGbos.Observer.Outbox
open Lib
open Proc (atomically)

/-- The time a call is made at, by its own account. -/
def Call.stamp : Call → Option Datetime
  | recordEvent _ _ _ => none
  | enqueueContextOutbox _ _ _ _ _ now _ => now
  | claimContextOutbox _ _ now _ => now
  | markContextOutbox _ _ _ now _ _ _ => now
  | claim _ _ now _ => now
  | heartbeat _ a _ => a.now
  | markPublished _ a => a.now
  | markFailed _ a _ _ => a.now

/-- A worker that holds the row can name both itself and the row. -/
def isNameable (outboxId : String) (row : OutboxRow) : Bool :=
  row.lease.any fun lease => isIdentifier 256 lease.owner || isSafeText outboxId

/-- The row is leased beyond `now`. -/
def isLive (now : Timestamptz) (row : OutboxRow) : Bool :=
  row.status = .leased && row.lease.any fun lease => now < lease.expiresAt

/-- How a call that is made at `now` changes the row `outboxId`. -/
inductive Transition (now : Datetime) (outboxId : String) : OutboxRow → OutboxRow → Prop where
  | lease {row : OutboxRow} {workerId : String} {expiry : Datetime}
      (hattempts : row.attemptCount < row.maxAttempts) (hdue : isDue now.instant row = true)
      (hworker : isIdentifier 256 workerId = true)
      (hexpiry : ∃ duration : ℤ, 0 < duration ∧ plus now duration = .ok expiry) :
      Transition now outboxId row (leased row workerId now expiry)
  | fence {row : OutboxRow} {workerId : String} {expiry : Datetime}
      (hattempts : row.attemptCount < row.maxAttempts) (hdue : isDue now.instant row = true)
      (hworker : isSafeText workerId = true)
      (hexpiry : ∃ duration : ℤ, 0 < duration ∧ plus now duration = .ok expiry) :
      Transition now outboxId row (fenced row workerId now expiry)
  | extend {row : OutboxRow} {expiry : Datetime} (hlive : isLive now.instant row = true)
      (hname : isNameable outboxId row = true) :
      Transition now outboxId row { row with
        lease := row.lease.map fun lease => { lease with expiresAt := expiry.instant }
        updatedAt := now.instant }
  | publish {row : OutboxRow} (hlive : isLive now.instant row = true)
      (hname : isNameable outboxId row = true) : Transition now outboxId row (published row now)
  | fail {row : OutboxRow} {nextRetryAt : Datetime} {errorCode : String}
      (hlive : isLive now.instant row = true) (hname : isNameable outboxId row = true) :
      Transition now outboxId row (failed row nextRetryAt errorCode now)

/-- Events and dead letters stay. -/
structure Grows (s s' : Outbox) : Prop where
  events : ∀ k purpose, s.events.get? k = some purpose → s'.events.get? k = some purpose
  deadLetters : ∀ k, (s.deadLetters.get? k).isSome = true → (s'.deadLetters.get? k).isSome = true

theorem Grows.refl (s : Outbox) : Grows s s := ⟨fun _ _ h => h, fun _ h => h⟩

theorem Grows.of_eq {s s' : Outbox} (hevents : s'.events = s.events)
    (hletters : s'.deadLetters = s.deadLetters) : Grows s s' :=
  ⟨fun k _ h => by rwa [hevents], fun k h => by rwa [hletters]⟩

/-- The moves of the call `c`. -/
inductive Move (py : Stdlib) (c : Call) (s s' : Outbox) : Prop where
  | idle (hgrows : Grows s s') (hrows : s'.rows = s.rows)
  | enqueue (id : String × String) (row : OutboxRow) (hgrows : Grows s s')
      (hsite : isSiteId id.1 = true) (hid : isIdentifier 256 id.2 = true)
      (hfree : s.rows.get? id = none) (hvisible : s.isVisible id.1 row = true)
      (hstatus : row.status = .queued) (hattempt : row.attemptCount = 0)
      (hattempts : 1 ≤ row.maxAttempts ∧ row.maxAttempts ≤ 100) (hlease : row.lease = none)
      (hgeneration : row.leaseGeneration = 0) (hrows : s'.rows = s.rows.set id row)
  | update (id : String × String) (row row' : OutboxRow) (now : Datetime) (hgrows : Grows s s')
      (hc : c.stamp = some now) (hget : s.rows.get? id = some row)
      (htransition : Transition now id.2 row row') (hrows : s'.rows = s.rows.set id row')
      (hletter : row'.status = .deadLetter →
        (s'.deadLetters.get? (id.1, deadLetterIdOf py id.1 id.2)).isSome = true)

/-! ## The parts of the operations -/

theorem candidate_some {collation : Collation} {s : Outbox} {site : String} {now : Timestamptz}
    {e : (String × String) × OutboxRow} (h : s.candidate collation site now = some e) :
    s.rows.get? e.1 = some e.2 ∧ s.isClaimable site now e = true := by
  have hmem := List.mem_of_head? h
  rw [List.mem_insertionSort, List.mem_filter] at hmem
  exact ⟨Dict.mem_items.mp hmem.1, hmem.2⟩

theorem run_updateRow {site outboxId : String} {p : OutboxRow → Bool} {f : OutboxRow → OutboxRow}
    {miss : Raise} {s s' : Outbox} {row' : OutboxRow}
    (h : (updateRow site outboxId p f miss).run s = (.ok row', s')) :
    ∃ row, s.rows.get? (site, outboxId) = some row ∧ s.isVisible site row = true ∧
      p row = true ∧ row' = f row ∧ s' = { s with rows := s.rows.set (site, outboxId) (f row) } := by
  unfold updateRow at h
  rw [Proc.run_get_bind] at h
  cases hrow : (s.rows.get? (site, outboxId)).filter fun row => s.isVisible site row && p row with
  | none => simp [hrow] at h
  | some row =>
      obtain ⟨hget, hp⟩ := Option.filter_eq_some_iff.mp hrow
      rw [Bool.and_eq_true] at hp
      simp only [hrow, Proc.run_bind, Proc.run_set, Proc.run_pure, Prod.mk.injEq,
        Except.ok.injEq] at h
      exact ⟨row, hget, hp.1, hp.2, h.1.symm, h.2.symm⟩

theorem updateRow_eq {site outboxId : String} {p : OutboxRow → Bool} (f : OutboxRow → OutboxRow)
    (miss : Raise) {s : Outbox} {row : OutboxRow} (hget : s.rows.get? (site, outboxId) = some row)
    (hvisible : s.isVisible site row = true) (hp : p row = true) :
    (updateRow site outboxId p f miss).run s =
      (.ok (f row), { s with rows := s.rows.set (site, outboxId) (f row) }) := by
  unfold updateRow
  rw [Proc.run_get_bind, hget]
  simp only [Option.filter_some, hvisible, hp, Bool.and_self, if_true]
  rfl

theorem grows_recordDeadLetter (py : Stdlib) (site outboxId : String) (row : OutboxRow)
    (errorCode : String) (now : Datetime) (s : Outbox) :
    Grows s (recordDeadLetter py site outboxId row errorCode now s) ∧
      (recordDeadLetter py site outboxId row errorCode now s).rows = s.rows ∧
      ((recordDeadLetter py site outboxId row errorCode now s).deadLetters.get?
        (site, deadLetterIdOf py site outboxId)).isSome = true := by
  unfold recordDeadLetter
  dsimp only
  split
  next hsome => exact ⟨.refl s, rfl, hsome⟩
  next =>
    refine ⟨⟨fun _ _ h => h, fun k h => ?_⟩, rfl, by simp⟩
    rw [Dict.get?_set]
    split
    · rfl
    · exact h

theorem run_updateFailed {py : Stdlib} {site outboxId : String} {p : OutboxRow → Bool}
    {nextRetryAt : Datetime} {errorCode : String} {now : Datetime} {miss : Raise}
    {s s' : Outbox} {row' : OutboxRow}
    (h : (updateFailed py site outboxId p nextRetryAt errorCode now miss).run s = (.ok row', s')) :
    ∃ row, s.rows.get? (site, outboxId) = some row ∧ s.isVisible site row = true ∧
      p row = true ∧ row' = failed row nextRetryAt errorCode now ∧ Grows s s' ∧
      s'.rows = s.rows.set (site, outboxId) row' ∧ (row'.status = .deadLetter →
        (s'.deadLetters.get? (site, deadLetterIdOf py site outboxId)).isSome = true) := by
  unfold updateFailed at h
  obtain ⟨row₁, s₁, hupdate, h⟩ := Proc.run_bind_eq_ok.mp h
  obtain ⟨row, hget, hvisible, hp, rfl, rfl⟩ := run_updateRow hupdate
  have hgrows : Grows s { s with
      rows := s.rows.set (site, outboxId) (failed row nextRetryAt errorCode now) } := .of_eq rfl rfl
  refine ⟨row, hget, hvisible, hp, ?_⟩
  split at h
  next hdead =>
    simp only [Proc.run_modify_bind, Proc.run_pure, Prod.mk.injEq, Except.ok.injEq] at h
    obtain ⟨rfl, rfl⟩ := h
    obtain ⟨hletters, hrows, hletter⟩ := grows_recordDeadLetter py site outboxId
      (failed row nextRetryAt errorCode now) errorCode now { s with
        rows := s.rows.set (site, outboxId) (failed row nextRetryAt errorCode now) }
    exact ⟨rfl, ⟨fun k purpose h => hletters.events k purpose h, fun k h => hletters.deadLetters k h⟩,
      hrows, fun _ => hletter⟩
  next halive =>
    simp only [Proc.run_pure, Prod.mk.injEq, Except.ok.injEq] at h
    obtain ⟨rfl, rfl⟩ := h
    exact ⟨rfl, hgrows, rfl, fun hdead => absurd hdead halive⟩

theorem isOwned_live {workerId : String} {now : Timestamptz} {row : OutboxRow}
    (h : isOwned workerId now row = true) :
    isLive now row = true ∧ ∃ lease, row.lease = some lease ∧ lease.owner = workerId := by
  rw [isOwned, Bool.and_eq_true, Option.any_eq_true] at h
  obtain ⟨hstatus, lease, hlease, hp⟩ := h
  rw [Bool.and_eq_true, decide_eq_true_eq] at hp
  refine ⟨?_, lease, hlease, hp.1⟩
  rw [isLive, Bool.and_eq_true, Option.any_eq_true]
  exact ⟨hstatus, lease, hlease, hp.2⟩

/-! ### Checks -/

theorem requireSafeText_ok {value name : String} {u : Unit} :
    requireSafeText value name = .ok u ↔ isSafeText value = true := by
  unfold requireSafeText
  split <;> simp [*]

theorem requireDuration_ok {duration : ℤ} {u : Unit} (h : requireDuration duration = .ok u) :
    0 < duration := by
  unfold requireDuration at h
  split at h
  next hmem => exact hmem.1
  next => cases h

theorem validateFencedClaim_ok {scope : TenantScope} {workerId : String} {now : Option Datetime}
    {leaseDuration : Timedelta} {now' expiry : Datetime}
    (h : validateFencedClaim scope workerId now leaseDuration = .ok (now', expiry)) :
    now = some now' ∧ isSafeText workerId = true ∧
      ∃ duration : ℤ, 0 < duration ∧ plus now' duration = .ok expiry := by
  unfold validateFencedClaim at h
  obtain ⟨_, -, h⟩ := Proc.bind_eq_ok.mp h
  obtain ⟨_, hworker, h⟩ := Proc.bind_eq_ok.mp h
  obtain ⟨d, haware, h⟩ := Proc.bind_eq_ok.mp h
  obtain ⟨_, hduration, h⟩ := Proc.bind_eq_ok.mp h
  obtain ⟨e, hplus, h⟩ := Proc.bind_eq_ok.mp h
  obtain ⟨rfl, rfl⟩ := Prod.mk.inj (Except.ok.inj h)
  exact ⟨requireAware_ok.mp haware, requireSafeText_ok.mp hworker, leaseDuration,
    requireDuration_ok hduration, hplus⟩

theorem validateTransition_ok {py : Stdlib} {scope : TenantScope} {a : FenceArguments}
    {now : Datetime} {generation : ℤ} (h : validateTransition py scope a = .ok (now, generation)) :
    a.now = some now ∧ isSafeText a.outboxId = true := by
  unfold validateTransition at h
  obtain ⟨_, -, h⟩ := Proc.bind_eq_ok.mp h
  obtain ⟨_, houtbox, h⟩ := Proc.bind_eq_ok.mp h
  obtain ⟨_, -, h⟩ := Proc.bind_eq_ok.mp h
  obtain ⟨d, haware, h⟩ := Proc.bind_eq_ok.mp h
  obtain ⟨_, -, h⟩ := Proc.bind_eq_ok.mp h
  obtain ⟨_, -, h⟩ := Proc.bind_eq_ok.mp h
  obtain ⟨rfl, -⟩ := Prod.mk.inj (Except.ok.inj h)
  exact ⟨requireAware_ok.mp haware, requireSafeText_ok.mp houtbox⟩

theorem validateFailure_ok {py : Stdlib} {scope : TenantScope} {a : FenceArguments}
    {retryAt : Option Datetime} {errorCode : String} {now retryAt' : Datetime} {generation : ℤ}
    (h : validateFailure py scope a retryAt errorCode = .ok (now, generation, retryAt')) :
    a.now = some now ∧ isSafeText a.outboxId = true := by
  unfold validateFailure at h
  obtain ⟨⟨d, g⟩, hchecked, h⟩ := Proc.bind_eq_ok.mp h
  obtain ⟨r, -, h⟩ := Proc.bind_eq_ok.mp h
  split at h
  · cases h
  · obtain ⟨rfl, -⟩ := Prod.mk.inj (Except.ok.inj h)
    exact validateTransition_ok hchecked

theorem validateMark_ok {outboxId workerId : String} {now : Option Datetime} {isPublished : Bool}
    {errorCode : Option String} {nextRetryAt : Option (Option Datetime)} {now' : Datetime}
    {failure : Option (Datetime × String)}
    (h : validateMark outboxId workerId now isPublished errorCode nextRetryAt =
      .ok (now', failure)) : now = some now' ∧ isIdentifier 256 workerId = true := by
  unfold validateMark at h
  obtain ⟨_, -, h⟩ := Proc.bind_eq_ok.mp h
  obtain ⟨_, hworker, h⟩ := Proc.bind_eq_ok.mp h
  obtain ⟨d, haware, h⟩ := Proc.bind_eq_ok.mp h
  have hd : d = now' := by
    dsimp only at h
    split at h
    · split at h
      · cases h
      · exact (Prod.mk.inj (Except.ok.inj h)).1
    · obtain ⟨_, -, h⟩ := Proc.bind_eq_ok.mp h
      split at h
      · cases h
      · obtain ⟨_, -, h⟩ := Proc.bind_eq_ok.mp h
        split at h
        · cases h
        · exact (Prod.mk.inj (Except.ok.inj h)).1
  rw [← hd]
  exact ⟨requireAware_ok.mp haware, requireIdentifier_ok.mp hworker⟩

theorem validateEnqueue_ok {outboxId observationEventId idempotencyKey payloadDigest : String}
    {now : Option Datetime} {maxAttempts : ℤ} {now' : Datetime}
    (h : validateEnqueue outboxId observationEventId idempotencyKey payloadDigest now maxAttempts =
      .ok now') :
    isIdentifier 256 outboxId = true ∧ 1 ≤ maxAttempts ∧ maxAttempts ≤ 100 := by
  unfold validateEnqueue at h
  obtain ⟨_, houtbox, h⟩ := Proc.bind_eq_ok.mp h
  obtain ⟨_, -, h⟩ := Proc.bind_eq_ok.mp h
  obtain ⟨_, -, h⟩ := Proc.bind_eq_ok.mp h
  split at h
  · obtain ⟨_, -, h⟩ := Proc.bind_eq_ok.mp h
    obtain ⟨_, hattempts, -⟩ := Proc.bind_eq_ok.mp h
    exact ⟨requireIdentifier_ok.mp houtbox, requireAttempts_ok.mp hattempts⟩
  · cases h

/-! ## The operations -/

section Operations
variable {py : Stdlib} {c : Call} {s : Outbox}

theorem Move.refl : Move py c s s := .idle (.refl s) rfl

/-- A row is enqueued where there is none. -/
theorem enqueueContextOutbox_cases (scope : TenantScope)
    (outboxId observationEventId idempotencyKey payloadDigest : String) (now : Option Datetime)
    (maxAttempts : ℤ) {t : Outbox}
    (ht : ((enqueueContextOutbox scope outboxId observationEventId idempotencyKey payloadDigest now
      maxAttempts).run s).2 = t) :
    t = s ∨ ∃ now' row, row = newRow observationEventId idempotencyKey payloadDigest now' maxAttempts ∧
      s.rows.get? (scope.siteId, outboxId) = none ∧ isIdentifier 256 outboxId = true ∧
      (1 ≤ maxAttempts ∧ maxAttempts ≤ 100) ∧ s.isVisible scope.siteId row = true ∧
      t = { s with rows := s.rows.set (scope.siteId, outboxId) row } := by
  unfold enqueueContextOutbox at ht
  rw [Proc.run_lift_bind] at ht
  split at ht
  next now' hchecked =>
    obtain ⟨hid, hattempts⟩ := validateEnqueue_ok hchecked
    rw [Proc.run_atomically] at ht
    split at ht
    next answer t' h =>
      rw [Proc.run_get_bind] at h
      dsimp only at h ht
      subst ht
      split at h
      · split at h
        · split at h
          · exact .inl (Prod.mk.inj h).2.symm
          · cases (Prod.mk.inj h).1
        · split at h
          · cases (Prod.mk.inj h).1
          next hvisible _ _ hfree =>
            simp only [Proc.run_bind, Proc.run_set, Proc.run_pure, Prod.mk.injEq] at h
            exact .inr ⟨now', _, rfl, by simpa using hfree, hid, hattempts, hvisible, h.2.symm⟩
      · cases (Prod.mk.inj h).1
    next => exact .inl ht.symm
  next => exact .inl ht.symm

theorem move_enqueueContextOutbox (scope : TenantScope)
    (outboxId observationEventId idempotencyKey payloadDigest : String) (now : Option Datetime)
    (maxAttempts : ℤ) :
    Move py (.enqueueContextOutbox scope outboxId observationEventId idempotencyKey payloadDigest
        now maxAttempts) s
      ((enqueueContextOutbox scope outboxId observationEventId idempotencyKey payloadDigest now
        maxAttempts).run s).2 := by
  obtain hsame | ⟨now', row, rfl, hfree, hid, hattempts, hvisible, hset⟩ :=
    enqueueContextOutbox_cases (s := s) scope outboxId observationEventId idempotencyKey
      payloadDigest now maxAttempts rfl
  · rw [hsame]
    exact .refl
  · rw [hset]
    exact .enqueue (scope.siteId, outboxId) _ (.of_eq rfl rfl) scope.siteId_ok hid hfree hvisible rfl
      rfl hattempts rfl rfl rfl

/-- A claim of the publisher takes a row that is due, or changes nothing. -/
theorem claimContextOutbox_cases (collation : Collation) (scope : TenantScope) (workerId : String)
    (now : Option Datetime) (leaseSeconds : ℤ) {r : Except Raise (Option (String × OutboxRow))}
    {t : Outbox}
    (ht : (claimContextOutbox collation scope workerId now leaseSeconds).run s = (r, t)) :
    (t = s ∧ ∀ e, r ≠ .ok (some e)) ∨
    ∃ now' expiry id row, now = some now' ∧ isIdentifier 256 workerId = true ∧
      (∃ duration : ℤ, 0 < duration ∧ plus now' duration = .ok expiry) ∧ id.1 = scope.siteId ∧
      s.rows.get? id = some row ∧ row.attemptCount < row.maxAttempts ∧
      isDue now'.instant row = true ∧ r = .ok (some (id.2, leased row workerId now' expiry)) ∧
      t = { s with rows := s.rows.set id (leased row workerId now' expiry) } := by
  unfold claimContextOutbox at ht
  rw [Proc.run_lift_bind] at ht
  split at ht
  next a hchecked =>
    obtain ⟨now', expiry⟩ := a
    obtain ⟨hnow, hworker, hexpiry⟩ := Store.validateClaim_ok hchecked
    dsimp only at ht
    rw [Proc.run_atomically, Proc.run_get_bind] at ht
    cases hcandidate : s.candidate collation scope.siteId now'.instant with
    | none =>
        simp only [hcandidate, Proc.run_pure, Prod.mk.injEq] at ht
        exact .inl ⟨ht.2.symm, fun e he => by cases ht.1.trans he⟩
    | some e =>
        obtain ⟨id, row⟩ := e
        obtain ⟨hget, hclaim⟩ := candidate_some hcandidate
        simp only [isClaimable, Bool.and_eq_true, decide_eq_true_eq] at hclaim
        simp only [hcandidate, Proc.run_modify_bind, Proc.run_pure, Prod.mk.injEq] at ht
        exact .inr ⟨now', expiry, id, row, hnow, hworker, hexpiry, hclaim.1.1.1, hget, hclaim.1.2,
          hclaim.2, ht.1.symm, ht.2.symm⟩
  next =>
    obtain ⟨rfl, rfl⟩ := Prod.mk.inj ht
    exact .inl ⟨rfl, fun e he => by cases he⟩

theorem move_claimContextOutbox (collation : Collation) (scope : TenantScope) (workerId : String)
    (now : Option Datetime) (leaseSeconds : ℤ) :
    Move py (.claimContextOutbox scope workerId now leaseSeconds) s
      ((claimContextOutbox collation scope workerId now leaseSeconds).run s).2 := by
  rcases hrun : (claimContextOutbox collation scope workerId now leaseSeconds).run s with ⟨r, t⟩
  obtain ⟨rfl, -⟩ | ⟨now', expiry, id, row, hnow, hworker, hexpiry, -, hget, hattempts, hdue, -,
    rfl⟩ := claimContextOutbox_cases collation scope workerId now leaseSeconds hrun
  · exact .refl
  · exact .update id row (leased row workerId now' expiry) now' (.of_eq rfl rfl) hnow hget
      (.lease hattempts hdue hworker hexpiry) rfl (fun hdead => by cases hdead)

theorem move_claim (collation : Collation) (scope : TenantScope) (workerId : String)
    (now : Option Datetime) (leaseDuration : Timedelta) :
    Move py (.claim scope workerId now leaseDuration) s
      ((claim py collation scope workerId now leaseDuration).run s).2 := by
  unfold claim
  apply Proc.run_lift_snd .refl
  rintro ⟨now', expiry⟩ hchecked
  obtain ⟨hnow, hworker, hexpiry⟩ := validateFencedClaim_ok hchecked
  refine Proc.run_bind_snd (Proc.run_atomically_snd .refl ?_) fun answer s' _ hs' => ?_
  · intro answer s' h
    rw [Proc.run_get_bind] at h
    split at h
    next => exact (Prod.mk.inj h).2 ▸ .refl
    next id row hcandidate =>
      obtain ⟨hget, hclaim⟩ := candidate_some hcandidate
      simp only [isClaimable, Bool.and_eq_true, decide_eq_true_eq] at hclaim
      simp only [Proc.run_modify_bind, Proc.run_pure, Prod.mk.injEq] at h
      exact h.2 ▸ .update id row (fenced row workerId now' expiry) now' (.of_eq rfl rfl) hnow hget
        (.fence hclaim.1.2 hclaim.2 hworker hexpiry) rfl (fun hdead => by cases hdead)
  · -- What is read of the row afterwards changes nothing.
    split
    · exact hs'
    · exact Proc.run_lift_snd hs' fun _ _ => hs'

theorem isLive_status {now : Timestamptz} {row : OutboxRow} (h : isLive now row = true) :
    row.status = .leased := by
  rw [isLive, Bool.and_eq_true, decide_eq_true_eq] at h
  exact h.1

/-- The statement of a worker on a row that it holds and can name. -/
theorem move_updateRow {site outboxId : String} {p : OutboxRow → Bool}
    {f : OutboxRow → OutboxRow} {miss : Raise} {now : Datetime} (hc : c.stamp = some now)
    (hf : ∀ row, p row = true → (f row).status ≠ .deadLetter)
    (htransition : ∀ row, p row = true → Transition now outboxId row (f row)) :
    Move py c s ((atomically (updateRow site outboxId p f miss)).run s).2 := by
  apply Proc.run_atomically_snd .refl
  intro row' s' h
  obtain ⟨row, hget, -, hp, rfl, rfl⟩ := run_updateRow h
  exact .update (site, outboxId) row (f row) now (.of_eq rfl rfl) hc hget (htransition row hp) rfl
    fun hdead => absurd hdead (hf row hp)

theorem move_updateFailed {site outboxId : String} {p : OutboxRow → Bool}
    {nextRetryAt now : Datetime} {errorCode : String} {miss : Raise} (hc : c.stamp = some now)
    (hp : ∀ row, p row = true → isLive now.instant row = true ∧ isNameable outboxId row = true) :
    Move py c s
      ((atomically (updateFailed py site outboxId p nextRetryAt errorCode now miss)).run s).2 := by
  apply Proc.run_atomically_snd .refl
  intro row' s' h
  obtain ⟨row, hget, -, hrow, rfl, hgrows, hrows, hletter⟩ := run_updateFailed h
  exact .update (site, outboxId) row _ now hgrows hc hget (.fail (hp row hrow).1 (hp row hrow).2)
    hrows hletter

theorem isOwned_nameable {workerId outboxId : String} {now : Timestamptz} {row : OutboxRow}
    (h : isOwned workerId now row = true)
    (hname : isIdentifier 256 workerId = true ∨ isSafeText outboxId = true) :
    isLive now row = true ∧ isNameable outboxId row = true := by
  obtain ⟨hlive, lease, hlease, rfl⟩ := isOwned_live h
  refine ⟨hlive, ?_⟩
  rw [isNameable, hlease, Option.any_some, Bool.or_eq_true]
  exact hname

theorem isFenced_nameable {a : FenceArguments} {generation : ℤ} {now : Timestamptz}
    {row : OutboxRow} (h : isFenced a generation now row = true)
    (hname : isSafeText a.outboxId = true) :
    isLive now row = true ∧ isNameable a.outboxId row = true := by
  rw [isFenced, Bool.and_eq_true, Bool.and_eq_true] at h
  exact isOwned_nameable h.1.1 (.inr hname)

theorem move_markContextOutbox (scope : TenantScope) (outboxId workerId : String)
    (now : Option Datetime) (isPublished : Bool) (errorCode : Option String)
    (nextRetryAt : Option (Option Datetime)) :
    Move py (.markContextOutbox scope outboxId workerId now isPublished errorCode nextRetryAt) s
      ((markContextOutbox py scope outboxId workerId now isPublished errorCode nextRetryAt).run
        s).2 := by
  unfold markContextOutbox
  apply Proc.run_lift_snd .refl
  rintro ⟨now', failure⟩ hchecked
  obtain ⟨hnow, hworker⟩ := validateMark_ok hchecked
  cases failure with
  | none =>
      refine move_updateRow hnow (fun row _ => by simp [published]) fun row hp => ?_
      obtain ⟨hlive, hname⟩ := isOwned_nameable hp (.inl hworker)
      exact .publish hlive hname
  | some failure => exact move_updateFailed hnow fun row hp => isOwned_nameable hp (.inl hworker)

theorem move_heartbeat (scope : TenantScope) (a : FenceArguments) (leaseDuration : Timedelta) :
    Move py (.heartbeat scope a leaseDuration) s
      ((heartbeat py scope a leaseDuration).run s).2 := by
  unfold heartbeat
  apply Proc.run_lift_snd .refl
  rintro ⟨now, generation⟩ hchecked
  obtain ⟨hnow, hname⟩ := validateTransition_ok hchecked
  apply Proc.run_lift_snd .refl
  intro _ _
  apply Proc.run_lift_snd .refl
  intro expiry _
  refine Proc.run_bind_snd (move_updateRow hnow (fun row hp => ?_) fun row hp => ?_)
    fun _ _ _ hs' => hs'
  · have hstatus := isLive_status (isFenced_nameable hp hname).1
    change row.status ≠ .deadLetter
    rw [hstatus]
    decide
  · obtain ⟨hlive, hnameable⟩ := isFenced_nameable hp hname
    exact .extend hlive hnameable

theorem move_markPublished (scope : TenantScope) (a : FenceArguments) :
    Move py (.markPublished scope a) s ((markPublished py scope a).run s).2 := by
  unfold markPublished
  apply Proc.run_lift_snd .refl
  rintro ⟨now, generation⟩ hchecked
  obtain ⟨hnow, hname⟩ := validateTransition_ok hchecked
  refine Proc.run_bind_snd (move_updateRow hnow (fun row _ => by simp [published]) fun row hp => ?_)
    fun _ _ _ hs' => hs'
  obtain ⟨hlive, hnameable⟩ := isFenced_nameable hp hname
  exact .publish hlive hnameable

theorem move_markFailed (scope : TenantScope) (a : FenceArguments) (retryAt : Option Datetime)
    (errorCode : String) :
    Move py (.markFailed scope a retryAt errorCode) s
      ((markFailed py scope a retryAt errorCode).run s).2 := by
  unfold markFailed
  apply Proc.run_lift_snd .refl
  rintro ⟨now, generation, retryAt'⟩ hchecked
  obtain ⟨hnow, hname⟩ := validateFailure_ok hchecked
  exact Proc.run_bind_snd (move_updateFailed hnow fun row hp => isFenced_nameable hp hname)
    fun _ _ _ hs' => hs'

theorem move_recordEvent (site eventId : String) (purpose : ProcessingPurpose) :
    Move py c s ((recordEvent site eventId purpose).run s).2 := by
  unfold recordEvent
  rw [Proc.run_modify]
  dsimp only
  split
  · exact .refl
  next hnew =>
    refine .idle ⟨fun k stored hget => ?_, fun _ h => h⟩ rfl
    have hne : k ≠ (site, eventId) := by
      rintro rfl
      exact hnew (by rw [hget]; rfl)
    rw [Dict.get?_set_of_ne _ _ hne, hget]

/-- Every call makes one of the moves. -/
theorem perform_move (py : Stdlib) (collation : Collation) (s : Outbox) (c : Call) :
    Move py c s ((perform py collation c).run s).2 := by
  cases c <;> rw [perform, Proc.run_map]
  case recordEvent site eventId purpose =>
    exact move_recordEvent site eventId purpose
  case enqueueContextOutbox => exact move_enqueueContextOutbox _ _ _ _ _ _ _
  case claimContextOutbox => exact move_claimContextOutbox _ _ _ _ _
  case markContextOutbox => exact move_markContextOutbox _ _ _ _ _ _ _
  case claim => exact move_claim _ _ _ _ _
  case heartbeat => exact move_heartbeat _ _ _
  case markPublished => exact move_markPublished _ _
  case markFailed => exact move_markFailed _ _ _ _

end Operations

end EsanGbos.Observer.Outbox
