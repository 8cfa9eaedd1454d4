import EsanGbos.AgentRuntime.MaterializationStore

/-!
# What the operations of the outbox do

Every operation writes a row over another one in one of five ways, and the triggers and the
constraint admit each of them. Only a heartbeat may be refused, where its time is before the row's.

## Main definitions

* `OutboxRow.Sound`, `Store.Sound` — the invariant.
* `Transition` — how a row is written over another one.

## Main results

* `Transition.sound` — a transition is admitted and keeps the invariant.
* `run_claim`, `run_heartbeat`, `run_acknowledge`, `run_fail`, `run_enqueue` — what each operation
  does.
-/
namespace EsanGbos.AgentRuntime.Materialization
open Lib
open Repository (requireAware requirePositive)

/-! ## Rows -/

/-- A row that the operations can have written. -/
structure OutboxRow.Sound (row : OutboxRow) : Prop where
  valid : row.isValid = true
  waiting : row.status = .pending ∨ row.status = .retry → row.attempt < row.maxAttempts
  maximum : row.maxAttempts = 5

theorem sound_pendingRow (proposalId taskId : String) {taskAttempt : ℤ} (h : 1 ≤ taskAttempt)
    (now : Timestamptz) : (pendingRow proposalId taskId taskAttempt now).Sound := by
  refine ⟨?_, fun _ => (by decide : (0 : ℤ) < 5), rfl⟩
  simp [OutboxRow.isValid, pendingRow, OutboxRow.hasLease, OutboxRow.hasReceipt, h]

/-- How a row is written over another one. -/
inductive Transition (row : OutboxRow) : OutboxRow → Prop
  | bury (now : Timestamptz) (hstatus : row.status = .running)
      (hspent : row.maxAttempts ≤ row.attempt) : Transition row (setDeadLettered now row)
  | take (workerId : String) (now expiry : Timestamptz)
      (hstatus : row.status = .pending ∨ row.status = .retry ∨ row.status = .running)
      (hleft : row.attempt < row.maxAttempts) : Transition row (setClaimed workerId now expiry row)
  | renew (now expiry : Timestamptz) (hstatus : row.status = .running)
      (hends : endsBefore expiry row = true) (hnow : row.updatedAt ≤ now) :
      Transition row (setRenewed now expiry row)
  | succeed (receipt : FrappeDraftReceipt) (now : Timestamptz) (hstatus : row.status = .running) :
      Transition row (setSucceeded receipt now row)
  | fail (retryAt : Timestamptz) {errorCode : String} (now : Timestamptz)
      (hstatus : row.status = .running) (hcode : isCode errorCode = true) :
      Transition row (setFailed retryAt errorCode now row)

section Rows
variable {row row' : OutboxRow}

theorem OutboxRow.Sound.attempt_nonneg (h : row.Sound) :
    0 ≤ row.attempt ∧ row.attempt ≤ row.maxAttempts := by
  have hvalid := h.valid
  simp only [isValid, Bool.and_eq_true, decide_eq_true_eq] at hvalid
  exact ⟨hvalid.1.1.1.1.1.2, hvalid.1.1.1.2⟩

/-- A running row has an owner and a lease, and has been claimed. -/
theorem OutboxRow.Sound.held (h : row.Sound) (hstatus : row.status = .running) :
    1 ≤ row.attempt ∧ (∃ workerId, row.leaseOwner = some workerId) ∧
      ∃ expiry, row.leaseExpiresAt = some expiry := by
  have hvalid := h.valid
  simp only [isValid, Bool.and_eq_true, decide_eq_true_eq, hasLease, hstatus, if_true] at hvalid
  obtain ⟨⟨hattempt, howner⟩, hexpiry⟩ := hvalid.1.1.2
  exact ⟨hattempt, Option.isSome_iff_exists.mp howner, Option.isSome_iff_exists.mp hexpiry⟩

/-- The invariant, taken apart. -/
theorem OutboxRow.isValid_iff : row.isValid = true ↔
    (1 ≤ row.taskAttempt ∧ row.origin = "AI" ∧ row.reviewStatus = "AI Draft" ∧ 0 ≤ row.attempt ∧
      1 ≤ row.maxAttempts ∧ row.attempt ≤ row.maxAttempts) ∧ row.hasLease = true ∧
        row.hasReceipt = true ∧ row.lastErrorCode.all isCode = true := by
  simp only [isValid, Bool.and_eq_true, decide_eq_true_eq]
  tauto

/-- A transition is admitted, and keeps the invariant. -/
theorem Transition.sound (h : Transition row row') (hs : row.Sound) :
    row.admits row' = true ∧ row'.Sound := by
  obtain ⟨⟨htask, horigin, hreview, hlow, hmax, hhigh⟩, hlease, hreceipt, hcode⟩ :=
    OutboxRow.isValid_iff.mp hs.valid
  have hmaximum := hs.maximum
  suffices hnew : row.keepsIdentity row' = true ∧ row.isTransition row' = true ∧
      row'.isValid = true ∧ (row'.status = .pending ∨ row'.status = .retry →
        row'.attempt < row'.maxAttempts) ∧ row'.maxAttempts = 5 by
    obtain ⟨hidentity, htransition, hvalid, hwaiting, hmaximum'⟩ := hnew
    exact ⟨by simp [OutboxRow.admits, hidentity, htransition, hvalid],
      ⟨hvalid, hwaiting, hmaximum'⟩⟩
  cases h with
  | bury now hstatus hspent =>
      refine ⟨by simp [OutboxRow.keepsIdentity, setDeadLettered],
        by simp [OutboxRow.isTransition, setDeadLettered, hstatus],
        OutboxRow.isValid_iff.mpr ⟨⟨htask, horigin, hreview, hlow, hmax, hhigh⟩, rfl, ?_, ?_⟩,
        by simp [setDeadLettered], hmaximum⟩
      · simpa [OutboxRow.hasReceipt, setDeadLettered, hstatus] using hreceipt
      · exact (by decide : isCode "lease_expired_max_attempts" = true)
  | take workerId now expiry hstatus hleft =>
      refine ⟨by simp [OutboxRow.keepsIdentity, setClaimed], ?_,
        OutboxRow.isValid_iff.mpr ⟨⟨htask, horigin, hreview, ?_, hmax, hleft⟩, ?_, ?_, rfl⟩,
        by simp [setClaimed], hmaximum⟩
      · rcases hstatus with hstatus | hstatus | hstatus <;>
          simp [OutboxRow.isTransition, setClaimed, hstatus]
      · change 0 ≤ row.attempt + 1
        omega
      · simp [OutboxRow.hasLease, setClaimed, hlow]
      · rcases hstatus with hstatus | hstatus | hstatus <;>
          simpa [OutboxRow.hasReceipt, setClaimed, hstatus] using hreceipt
  | renew now expiry hstatus hends hnow =>
      obtain ⟨lease, hlease', hlt⟩ : ∃ lease, row.leaseExpiresAt = some lease ∧ lease < expiry := by
        simpa [endsBefore, Option.any_eq_true] using hends
      refine ⟨by simp [OutboxRow.keepsIdentity, setRenewed], ?_,
        OutboxRow.isValid_iff.mpr ⟨⟨htask, horigin, hreview, hlow, hmax, hhigh⟩, ?_, ?_, hcode⟩,
        by simp [setRenewed, hstatus], hmaximum⟩
      · simp [OutboxRow.isTransition, OutboxRow.isRenewal, OutboxRow.extendsLease, setRenewed,
          hstatus, hlease', hlt, hnow]
      · simpa [OutboxRow.hasLease, setRenewed, hstatus, hlease'] using hlease
      · simpa [OutboxRow.hasReceipt, setRenewed, hstatus] using hreceipt
  | succeed receipt now hstatus =>
      refine ⟨by simp [OutboxRow.keepsIdentity, setSucceeded],
        by simp [OutboxRow.isTransition, setSucceeded, hstatus],
        OutboxRow.isValid_iff.mpr ⟨⟨htask, horigin, hreview, hlow, hmax, hhigh⟩, rfl, ?_, rfl⟩,
        by simp [setSucceeded], hmaximum⟩
      simp [OutboxRow.hasReceipt, setSucceeded, receipt.revision_nonneg, receipt.digest_ok]
  | fail retryAt now hstatus hcode' =>
      refine ⟨by simp [OutboxRow.keepsIdentity, setFailed], ?_,
        OutboxRow.isValid_iff.mpr ⟨⟨htask, horigin, hreview, hlow, hmax, hhigh⟩, ?_, ?_, hcode'⟩,
        ?_, hmaximum⟩
      · by_cases hspent : row.maxAttempts ≤ row.attempt <;>
          simp [OutboxRow.isTransition, setFailed, hstatus, hspent]
      · by_cases hspent : row.maxAttempts ≤ row.attempt <;>
          simp [OutboxRow.hasLease, setFailed, hspent]
      · by_cases hspent : row.maxAttempts ≤ row.attempt <;>
          simpa [OutboxRow.hasReceipt, setFailed, hstatus, hspent] using hreceipt
      · by_cases hspent : row.maxAttempts ≤ row.attempt <;> simp [setFailed, hspent]
        exact not_le.mp hspent

/-- A lease cannot be renewed at a time before the row's. -/
theorem admits_setRenewed (hstatus : row.status = .running) {now expiry : Timestamptz}
    (hnow : now < row.updatedAt) : row.admits (setRenewed now expiry row) = false := by
  have hlate : ¬row.updatedAt ≤ now := not_le.mpr hnow
  simp [OutboxRow.admits, OutboxRow.isTransition, OutboxRow.isRenewal, setRenewed, hstatus, hlate]

end Rows

/-! ## Statements -/

def Store.Sound (s : Store) : Prop := ∀ key row, s.outbox.get? key = some row → row.Sound

theorem sound_empty : Store.Sound {} := fun _ _ h => by cases h

def Store.put (s : Store) (key : String × String) (row : OutboxRow) : Store :=
  { s with outbox := s.outbox.set key row }

section Statements
variable {s : Store} {p : Entry → Bool} {f : OutboxRow → OutboxRow} {key : String × String}

@[simp] theorem Store.outbox_put (s : Store) (key : String × String) (row : OutboxRow) :
    (s.put key row).outbox = s.outbox.set key row := rfl

theorem Store.Sound.put (h : s.Sound) {row : OutboxRow} (hrow : row.Sound) :
    (s.put key row).Sound := by
  intro key' row' hget
  rw [outbox_put, Dict.get?_set] at hget
  split at hget
  · obtain rfl := Option.some.inj hget
    exact hrow
  · exact h key' row' hget

theorem run_update (h : ∀ e ∈ s.outbox.items, p e = true → e.2.admits (f e.2) = true) :
    (update p f).run s = (.ok ((s.outbox.items.filter p).map fun e => (e.1, f e.2)),
      { s with outbox := s.outbox.updateIf p f }) := by
  have hrewrite : ∀ e ∈ s.outbox.items, p e = true → rewrite f e.2 = .ok (f e.2) := by
    intro e he hp
    rw [rewrite, if_pos (h e he hp)]
  have hall : s.outbox.updateChecked p (rewrite f) = .ok (s.outbox.updateIf p f) := by
    refine Dict.updateChecked_eq_ok.mpr ⟨fun e he hp => ⟨_, hrewrite e he hp⟩, ?_⟩
    apply Dict.ext
    refine List.map_congr_left fun e he => ?_
    by_cases hp : p e = true
    · simp [hp, hrewrite e he hp, Except.toOption]
    · simp [hp]
  rw [update, Proc.run_get_bind, hall]
  rfl

/-- The update of one row, by its key. -/
theorem run_updateOne (q : OutboxRow → Bool) : (updateOne key q f).run s =
    match (s.outbox.get? key).filter q with
    | none => (.ok none, s)
    | some row => if row.admits (f row) = true then (.ok (some (f row)), s.put key (f row))
        else (.error .integrityError, s) := by
  cases hrow : (s.outbox.get? key).filter q with
  | none =>
      have hp : ∀ e ∈ s.outbox.items, (decide (e.1 = key) && q e.2) = false := by
        rintro ⟨key', row⟩ he
        by_contra htrue
        simp only [Bool.not_eq_false, Bool.and_eq_true, decide_eq_true_eq] at htrue
        obtain ⟨rfl, hq⟩ := htrue
        rw [Dict.mem_items.mp he, Option.filter_some, if_pos hq] at hrow
        cases hrow
      have hupdate : (update (fun e => decide (e.1 = key) && q e.2) f).run s = (.ok [], s) := by
        rw [run_update fun e he htrue => absurd htrue (by simp [hp e he]),
          Dict.updateIf_eq_self f hp, List.filter_eq_nil_iff.mpr fun e he => by simp [hp e he]]
        rfl
      rw [updateOne, Proc.run_bind_ok hupdate]
      rfl
  | some row =>
      obtain ⟨hget, hq⟩ := Option.filter_eq_some_iff.mp hrow
      have hp : ∀ e ∈ s.outbox.items, (decide (e.1 = key) && q e.2) = true ↔ e.1 = key := by
        rintro ⟨key', row'⟩ he
        rw [Bool.and_eq_true, decide_eq_true_eq, and_iff_left_iff_imp]
        rintro rfl
        obtain rfl := Option.some.inj ((Dict.mem_items.mp he).symm.trans hget)
        exact hq
      have hfilter := Dict.filter_items_eq_singleton hget hp
      by_cases hadmits : row.admits (f row) = true
      · have hupdate : (update (fun e => decide (e.1 = key) && q e.2) f).run s =
            (.ok [(key, f row)], s.put key (f row)) := by
          rw [run_update, hfilter, Dict.updateIf_eq_set f hget hp]
          · rfl
          · rintro ⟨key', row'⟩ he htrue
            obtain rfl := (hp _ he).mp htrue
            obtain rfl := Option.some.inj ((Dict.mem_items.mp he).symm.trans hget)
            exact hadmits
        rw [updateOne, Proc.run_bind_ok hupdate]
        simp only [hadmits, if_true]
        rfl
      · have hupdate : (update (fun e => decide (e.1 = key) && q e.2) f).run s =
            (.error .integrityError, s) := by
          rw [update, Proc.run_get_bind, Dict.updateChecked, hfilter]
          simp only [List.forM_eq_forM, List.forM_cons, rewrite, hadmits]
          rfl
        rw [updateOne, Proc.run_bind_error hupdate]
        simp only [hadmits]
        rfl

end Statements

/-! ## Checks -/

section Checks

/-- A check of the repository raises an exception of its own. -/
theorem checked_eq_error {α : Type} {x : Except Raise α} {e : MaterializationError}
    (h : checked x = .error e) : ∃ e', e = .raise e' := by
  cases x with
  | ok a => cases h
  | error e' => exact ⟨e', (Except.error.inj h).symm⟩

theorem checked_eq_ok {α : Type} {x : Except Raise α} {a : α} :
    checked x = .ok a ↔ x = .ok a := by
  cases x <;> simp [checked, Except.mapError]

theorem parameters_cases (texts : List String) : parameters texts = .ok () ∧ texts.all isText = true ∨
    parameters texts = .error .dataError ∧ texts.all isText = false := by
  unfold parameters
  split
  next h => exact .inl ⟨rfl, h⟩
  next h => exact .inr ⟨rfl, by simpa using h⟩

end Checks

/-! ## Claims -/

/-- The store after the first statement of a claim. -/
def Store.swept (s : Store) (siteId : String) (now : Timestamptz) : Store :=
  { s with outbox := s.outbox.updateIf (isExhausted siteId now) (setDeadLettered now) }

section Claims
variable {s : Store} {collation : Collation} {locked : String × String → Bool}
  {siteId workerId : String} {now : Timestamptz} {key : String × String} {row : OutboxRow}

theorem transition_of_isExhausted {e : Entry} (h : isExhausted siteId now e = true) :
    Transition e.2 (setDeadLettered now e.2) := by
  simp only [isExhausted, Bool.and_eq_true, decide_eq_true_eq] at h
  exact .bury now h.1.1.2 h.2

/-- A row after the first statement of a claim. -/
theorem Store.get?_swept (hget : s.outbox.get? key = some row) :
    (s.swept siteId now).outbox.get? key =
      some (if isExhausted siteId now (key, row) = true then setDeadLettered now row else row) := by
  rw [swept, Dict.get?_updateIf, hget, Option.map_some]

theorem Store.Sound.swept (h : s.Sound) : (s.swept siteId now).Sound := by
  intro key row hget
  rw [Store.swept, Dict.get?_updateIf, Option.map_eq_some_iff] at hget
  obtain ⟨row', hrow', rfl⟩ := hget
  split
  next hexhausted => exact ((transition_of_isExhausted hexhausted).sound (h key row' hrow')).2
  next => exact h key row' hrow'

theorem run_sweep (h : s.Sound) : ∃ rows,
    (update (isExhausted siteId now) (setDeadLettered now)).run s =
      (.ok rows, s.swept siteId now) :=
  ⟨_, run_update fun _ he hexhausted =>
    ((transition_of_isExhausted hexhausted).sound (h _ _ (Dict.mem_items.mp he))).1⟩

theorem candidate_spec {outbox : Dict (String × String) OutboxRow} {e : Entry}
    (h : candidate collation locked siteId now outbox = some e) :
    outbox.get? e.1 = some e.2 ∧ isDue siteId now e = true ∧ locked e.1 = false := by
  obtain ⟨hmem, hdue⟩ := List.mem_filter.mp (mem_of_head?_insertionSort h)
  simp only [Bool.and_eq_true, Bool.not_eq_true'] at hdue
  exact ⟨Dict.mem_items.mp hmem, hdue⟩

theorem isDue_iff {e : Entry} : isDue siteId now e = true ↔
    e.1.1 = siteId ∧ e.2.attempt < e.2.maxAttempts ∧
      ((e.2.status = .pending ∨ e.2.status = .retry) ∧ e.2.nextAttemptAt ≤ now ∨
        e.2.status = .running ∧ ∃ expiry, e.2.leaseExpiresAt = some expiry ∧ expiry ≤ now) := by
  simp only [isDue, Bool.and_eq_true, Bool.or_eq_true, decide_eq_true_eq, Option.any_eq_true,
    and_assoc]

theorem transition_of_isDue {e : Entry} (h : isDue siteId now e = true) (workerId : String)
    (expiry : Timestamptz) : Transition e.2 (setClaimed workerId now expiry e.2) := by
  obtain ⟨-, hleft, hstatus⟩ := isDue_iff.mp h
  refine .take workerId now expiry ?_ hleft
  rcases hstatus with ⟨hwaiting | hwaiting, -⟩ | ⟨hrunning, -⟩
  · exact .inl hwaiting
  · exact .inr (.inl hwaiting)
  · exact .inr (.inr hrunning)

/-- A bundle that cannot be read is refused by a check of the repository. -/
theorem envelopeOf_error {proposalId : String} {e : MaterializationError}
    (h : envelopeOf s siteId proposalId = .error e) : ∃ e', e = .raise e' := by
  simp only [envelopeOf, modelIdentity, MaterializationError.validation, bind, Except.bind, pure,
    Except.pure, throw, throwThe, MonadExceptOf.throw] at h
  repeat' split at h
  all_goals first
    | exact ⟨_, (Except.error.inj h).symm⟩
    | cases h
  all_goals
    rename_i heq
    repeat' split at heq
    all_goals first
      | exact ⟨_, (Except.error.inj heq).symm⟩
      | cases heq

theorem claimOf_error {expiry : Timestamptz} {e : MaterializationError}
    (h : claimOf s key row workerId expiry = .error e) : ∃ e', e = .raise e' := by
  rw [claimOf] at h
  cases henvelope : envelopeOf s key.1 row.proposalId with
  | error e' =>
      rw [henvelope] at h
      obtain rfl := Except.error.inj h
      exact envelopeOf_error henvelope
  | ok envelope =>
      rw [henvelope] at h
      simp only [bind, Except.bind] at h
      split at h
      next e' hchecked =>
        obtain rfl := Except.error.inj h
        exact checked_eq_error hchecked
      next => cases h

/-- What a claim says of its row. -/
theorem claimOf_spec {expiry : Timestamptz} {claim : MaterializationClaim}
    (h : claimOf s key row workerId expiry = .ok claim) :
    (claim.siteId, claim.materializationId) = key ∧ claim.proposalId = row.proposalId ∧
      claim.attempt = row.attempt ∧ claim.maxAttempts = row.maxAttempts ∧
      claim.leaseOwner = workerId ∧ claim.leaseExpiresAt = expiry ∧
      envelopeOf s key.1 row.proposalId = .ok claim.envelope := by
  rw [claimOf] at h
  cases henvelope : envelopeOf s key.1 row.proposalId with
  | error e' =>
      rw [henvelope] at h
      cases h
  | ok envelope =>
      rw [henvelope] at h
      simp only [bind, Except.bind] at h
      split at h
      next => cases h
      next =>
        obtain rfl := Except.ok.inj h
        exact ⟨rfl, rfl, rfl, rfl, rfl, rfl, rfl⟩

/-- What the second statement of a claim makes of the store. -/
def takeCandidate (collation : Collation) (locked : String × String → Bool)
    (siteId workerId : String) (now expiry : Timestamptz) (s : Store) :
    Except MaterializationError (Option MaterializationClaim × Store) :=
  match candidate collation locked siteId now s.outbox with
  | none => .ok (none, s)
  | some e =>
      let claimed := setClaimed workerId now expiry e.2
      (claimOf s e.1 claimed workerId expiry).map fun claim => (some claim, s.put e.1 claimed)

theorem takeCandidate_error {expiry : Timestamptz} {e : MaterializationError}
    (h : takeCandidate collation locked siteId workerId now expiry s = .error e) :
    ∃ e', e = .raise e' := by
  rw [takeCandidate] at h
  split at h
  · cases h
  · next e' _ =>
      dsimp only at h
      cases hclaim : claimOf s e'.1 (setClaimed workerId now expiry e'.2) workerId expiry with
      | ok claim =>
          rw [hclaim] at h
          cases h
      | error err =>
          rw [hclaim] at h
          obtain rfl := Except.error.inj h
          exact claimOf_error hclaim

/-- A claim sweeps and takes a candidate, or it leaves the store alone. -/
theorem run_claim (hs : s.Sound) (now : Option Datetime) (leaseDuration : Timedelta) :
    (∃ e, (claimMaterialization collation locked siteId workerId now leaseDuration).run s =
        (.error (.raise e), s)) ∧
        (∀ now', validateClaim siteId workerId now leaseDuration = .ok now' →
          ∀ expiry, Repository.leaseEnd now' leaseDuration ≠ .ok expiry) ∨
      (claimMaterialization collation locked siteId workerId now leaseDuration).run s =
        (.error .dataError, s) ∧ [siteId, workerId].all isText = false ∨
      ∃ now' expiry, validateClaim siteId workerId now leaseDuration = .ok now' ∧
        Repository.leaseEnd now' leaseDuration = .ok expiry ∧
        [siteId, workerId].all isText = true ∧
        (claimMaterialization collation locked siteId workerId now leaseDuration).run s =
          match takeCandidate collation locked siteId workerId now'.instant expiry.instant
              (s.swept siteId now'.instant) with
          | .ok (claim, t) => (.ok claim, t)
          | .error e => (.error e, s) := by
  rw [claimMaterialization, Proc.run_lift_bind]
  cases hvalid : checked (validateClaim siteId workerId now leaseDuration) with
  | error e =>
      obtain ⟨e', rfl⟩ := checked_eq_error hvalid
      refine .inl ⟨⟨e', rfl⟩, fun now' hnow' => ?_⟩
      rw [checked_eq_ok.mpr hnow'] at hvalid
      cases hvalid
  | ok now' =>
      dsimp only
      rw [Proc.run_atomically, setSite, Proc.run_lift_bind]
      rcases parameters_cases [siteId] with ⟨hsite, hsiteText⟩ | ⟨hsite, hsiteText⟩
      · rw [hsite]
        obtain ⟨rows, hsweep⟩ := @run_sweep s siteId now'.instant hs
        simp only [Proc.run_bind_ok hsweep, Proc.run_lift_bind]
        cases hexpiry : checked (Repository.leaseEnd now' leaseDuration) with
        | error e =>
            obtain ⟨e', rfl⟩ := checked_eq_error hexpiry
            refine .inl ⟨⟨e', rfl⟩, fun now'' hnow'' expiry hend => ?_⟩
            obtain rfl := Except.ok.inj (hvalid.symm.trans (checked_eq_ok.mpr hnow''))
            rw [checked_eq_ok.mpr hend] at hexpiry
            cases hexpiry
        | ok expiry =>
            dsimp only
            rcases parameters_cases [siteId, workerId] with ⟨htexts, htextsOk⟩ | ⟨htexts, hbad⟩
            · refine .inr (.inr ⟨now', expiry, checked_eq_ok.mp hvalid, checked_eq_ok.mp hexpiry,
                htextsOk, ?_⟩)
              rw [htexts]
              simp only [Proc.run_get_bind, takeCandidate]
              cases hcandidate : candidate collation locked siteId now'.instant
                  (s.swept siteId now'.instant).outbox with
              | none => rfl
              | some e =>
                  obtain ⟨hget, hdue, -⟩ := candidate_spec hcandidate
                  have hadmits := ((transition_of_isDue hdue workerId expiry.instant).sound
                    (hs.swept _ _ hget)).1
                  have hupdate : (updateOne e.1 (fun _ => true)
                      (setClaimed workerId now'.instant expiry.instant)).run
                        (s.swept siteId now'.instant) =
                      (.ok (some (setClaimed workerId now'.instant expiry.instant e.2)),
                        (s.swept siteId now'.instant).put e.1
                          (setClaimed workerId now'.instant expiry.instant e.2)) := by
                    rw [run_updateOne, hget]
                    simp only [Option.filter_some, if_true, hadmits]
                  simp only [Proc.run_bind_ok hupdate, Proc.run_get_bind, Proc.run_lift_bind]
                  -- the envelope is read from tables that the claim has not written
                  have hsame : claimOf ((s.swept siteId now'.instant).put e.1
                      (setClaimed workerId now'.instant expiry.instant e.2)) =
                        claimOf (s.swept siteId now'.instant) := rfl
                  rw [hsame]
                  cases claimOf (s.swept siteId now'.instant) e.1
                    (setClaimed workerId now'.instant expiry.instant e.2) workerId
                      expiry.instant <;> rfl
            · rw [htexts]
              exact .inr (.inl ⟨rfl, hbad⟩)
      · rw [hsite]
        refine .inr (.inl ⟨rfl, ?_⟩)
        simp only [List.all_cons, List.all_nil, Bool.and_true] at hsiteText ⊢
        rw [hsiteText, Bool.false_and]

end Claims

/-! ## Under a lease -/

section Held
variable {s : Store} {key : String × String} {workerId : String} {attempt : ℤ} {now : Timestamptz}
  {row : OutboxRow}

theorem isHeld_iff : isHeld workerId attempt now row = true ↔
    row.status = .running ∧ row.leaseOwner = some workerId ∧ row.attempt = attempt ∧
      ∃ expiry, row.leaseExpiresAt = some expiry ∧ now < expiry := by
  simp only [isHeld, Bool.and_eq_true, decide_eq_true_eq, Option.any_eq_true, and_assoc]

/-- The row with the key, if the worker holds it. -/
def Store.held? (s : Store) (key : String × String) (workerId : String) (attempt : ℤ)
    (now : Timestamptz) : Option OutboxRow :=
  (s.outbox.get? key).filter (isHeld workerId attempt now)

theorem held?_eq_some : s.held? key workerId attempt now = some row ↔
    s.outbox.get? key = some row ∧ isHeld workerId attempt now row = true :=
  Option.filter_eq_some_iff

/-- A heartbeat that finds its row under a live lease, with the end of the lease it asks for. -/
structure Beats (s : Store) (key : String × String) (workerId : String) (attempt : ℤ)
    (now : Option Datetime) (leaseDuration : Timedelta) (now' : Datetime) (expiry : Timestamptz)
    (row : OutboxRow) : Prop where
  valid : validateHeartbeat now leaseDuration = .ok now'
  texts : [key.1, key.2, workerId].all isText = true
  expiry : renewedEnd now'.instant leaseDuration = .ok expiry
  held : s.held? key workerId attempt now'.instant = some row

/-- A heartbeat answers its holder; its time may not be before the row's, if it has a lease to
renew. -/
theorem run_heartbeat (hs : s.Sound) (attempt : ℤ) (now : Option Datetime)
    (leaseDuration : Timedelta) :
    ((∀ now' expiry row, ¬Beats s key workerId attempt now leaseDuration now' expiry row) ∧
      ∃ e, e ≠ .integrityError ∧
        (heartbeatMaterialization key workerId attempt now leaseDuration).run s = (.error e, s)) ∨
    ∃ now' expiry row, Beats s key workerId attempt now leaseDuration now' expiry row ∧
      (heartbeatMaterialization key workerId attempt now leaseDuration).run s =
        if endsBefore expiry row = true then
          if row.updatedAt ≤ now'.instant then
            (.ok (), s.put key (setRenewed now'.instant expiry row))
          else (.error .integrityError, s)
        else (.ok (), s) := by
  rw [heartbeatMaterialization, Proc.run_lift_bind]
  cases hvalid : validateHeartbeat now leaseDuration with
  | error e =>
      refine .inl ⟨fun _ _ _ hbeats => ?_, .raise e, by simp, rfl⟩
      cases hvalid.symm.trans hbeats.valid
  | ok now' =>
      have hnow : ∀ {now'' expiry row}, Beats s key workerId attempt now leaseDuration now'' expiry
          row → now'' = now' := fun hbeats => Except.ok.inj (hbeats.valid.symm.trans hvalid)
      simp only [checked, Except.mapError, Proc.run_atomically, setSite, Proc.run_lift_bind]
      rcases parameters_cases [key.1] with ⟨hsite, hsiteText⟩ | ⟨hsite, hbad⟩
      swap
      · rw [hsite]
        refine .inl ⟨fun _ _ _ hbeats => ?_, .dataError, by simp, rfl⟩
        have htexts := hbeats.texts
        rw [← List.singleton_append, List.all_append, hbad] at htexts
        cases htexts
      rw [hsite]
      dsimp only
      rcases parameters_cases [key.2, workerId] with ⟨htexts, htextsOk⟩ | ⟨htexts, hbad⟩
      swap
      · rw [htexts]
        refine .inl ⟨fun _ _ _ hbeats => ?_, .dataError, by simp, rfl⟩
        have htexts := hbeats.texts
        rw [← List.singleton_append, List.all_append, hbad, Bool.and_false] at htexts
        cases htexts
      rw [htexts]
      dsimp only
      cases hexpiry : renewedEnd now'.instant leaseDuration with
      | error e =>
          refine .inl ⟨fun _ _ _ hbeats => ?_, e, ?_, rfl⟩
          · have hexpiry' := hbeats.expiry
            rw [hnow hbeats, hexpiry] at hexpiry'
            cases hexpiry'
          · rw [renewedEnd] at hexpiry
            split at hexpiry
            · cases hexpiry
            · rw [← Except.error.inj hexpiry]
              simp
      | ok expiry =>
          simp only [Proc.run_get_bind]
          cases hheld : s.held? key workerId attempt now'.instant with
          | none =>
              have hupdate : (updateOne key (fun row => isHeld workerId attempt now'.instant row &&
                  endsBefore expiry row) (setRenewed now'.instant expiry)).run s =
                    (.ok none, s) := by
                rw [run_updateOne, ← Option.filter_filter, ← Store.held?, hheld]
                rfl
              refine .inl ⟨fun _ _ _ hbeats => ?_, leaseLost, by simp [leaseLost], ?_⟩
              · have hheld' := hbeats.held
                rw [hnow hbeats, hheld] at hheld'
                cases hheld'
              · rw [Store.held?] at hheld
                rw [Proc.run_bind_ok hupdate, hheld]
                rfl
          | some row =>
              have hall : [key.1, key.2, workerId].all isText = true := by
                rw [← List.singleton_append, List.all_append, hsiteText, htextsOk]
                rfl
              refine .inr ⟨now', expiry, row, ⟨hvalid, hall, hexpiry, hheld⟩, ?_⟩
              obtain ⟨hget, hholds⟩ := held?_eq_some.mp hheld
              have hrunning := (isHeld_iff.mp hholds).1
              have hupdate := @run_updateOne s (setRenewed now'.instant expiry) key
                fun row => isHeld workerId attempt now'.instant row && endsBefore expiry row
              rw [hget, Option.filter_some, hholds, Bool.true_and] at hupdate
              rw [Store.held?] at hheld
              rw [hheld]
              by_cases hends : endsBefore expiry row = true
              · rw [if_pos hends] at hupdate ⊢
                by_cases htime : row.updatedAt ≤ now'.instant
                · have hadmits :=
                    ((Transition.renew now'.instant expiry hrunning hends htime).sound
                      (hs _ _ hget)).1
                  simp only [hadmits, if_true] at hupdate
                  rw [Proc.run_bind_ok hupdate, if_pos htime]
                  rfl
                · have hadmits := @admits_setRenewed row hrunning now'.instant expiry (not_le.mp htime)
                  simp only [hadmits] at hupdate
                  rw [Proc.run_bind_error hupdate, if_neg htime]
              · rw [if_neg hends] at hupdate ⊢
                rw [Proc.run_bind_ok hupdate]
                rfl

/-- The update of a row that its holder gives up or completes. -/
theorem run_settle (hs : s.Sound) {f : OutboxRow → OutboxRow}
    (hf : ∀ row : OutboxRow, row.status = .running → Transition row (f row)) :
    (updateOne key (isHeld workerId attempt now) f).run s =
      match s.held? key workerId attempt now with
      | none => (.ok none, s)
      | some row => (.ok (some (f row)), s.put key (f row)) := by
  rw [run_updateOne, Store.held?]
  cases hheld : (s.outbox.get? key).filter (isHeld workerId attempt now) with
  | none => rfl
  | some row =>
      obtain ⟨hget, hholds⟩ := held?_eq_some.mp hheld
      simp only [((hf row (isHeld_iff.mp hholds).1).sound (hs _ _ hget)).1, if_true]

/-- A row that has succeeded answers with its receipt, and refuses any other. -/
theorem replayReceipt_cases (row : OutboxRow) (receipt : FrappeDraftReceipt) :
    storedReceipt row = .ok receipt ∧ replayReceipt row receipt = .ok receipt ∨
      ∃ e, e ≠ .integrityError ∧ replayReceipt row receipt = .error e := by
  cases hstored : storedReceipt row with
  | error e =>
      refine .inr ⟨e, ?_, by rw [replayReceipt, hstored]; rfl⟩
      rw [storedReceipt] at hstored
      split at hstored
      · obtain rfl := Except.error.inj hstored
        simp
      · obtain ⟨e', rfl⟩ := checked_eq_error hstored
        simp
  | ok existing =>
      by_cases hsame : existing = receipt
      · subst hsame
        exact .inl ⟨rfl, by simp [replayReceipt, hstored, bind, Except.bind, pure, Except.pure]⟩
      · refine .inr ⟨.raise (.idempotencyConflict
          "materialization receipt replay has a body conflict"), by simp, ?_⟩
        rw [replayReceipt, hstored]
        simp only [bind, Except.bind, ne_eq, hsame, not_false_eq_true, if_true]
        rfl

theorem run_completeRow (hs : s.Sound) (attempt : ℤ) (now : Timestamptz)
    (receipt : FrappeDraftReceipt) :
    (∃ e, e ≠ .integrityError ∧
      (completeRow key workerId attempt now receipt).run s = (.error e, s)) ∨
    ∃ row, isInteger receipt.revision = true ∧ s.held? key workerId attempt now = some row ∧
      (completeRow key workerId attempt now receipt).run s =
        (.ok receipt, s.put key (setSucceeded receipt now row)) := by
  rw [completeRow, Proc.run_lift_bind]
  rcases parameters_cases [workerId, receipt.doctype, receipt.name, receipt.requestId] with
    ⟨htexts, -⟩ | ⟨htexts, -⟩
  swap
  · rw [htexts]
    exact .inl ⟨_, by simp, rfl⟩
  rw [htexts]
  cases hinteger : isInteger receipt.revision with
  | false => exact .inl ⟨.dataError, by simp, rfl⟩
  | true =>
      have hupdate := @run_settle s key workerId attempt now hs (setSucceeded receipt now)
        fun row hstatus => .succeed receipt now hstatus
      simp only [Bool.not_true]
      cases hheld : s.held? key workerId attempt now with
      | none =>
          rw [hheld] at hupdate
          refine .inl ⟨leaseLost, by simp [leaseLost], ?_⟩
          exact Proc.run_bind_ok hupdate
      | some row =>
          rw [hheld] at hupdate
          exact .inr ⟨row, trivial, rfl, Proc.run_bind_ok hupdate⟩

/-- An acknowledgement completes the row of its holder, repeats the receipt that is there, or
leaves the store alone. -/
theorem run_acknowledge (hs : s.Sound) (attempt : ℤ) (now : Option Datetime)
    (receipt : FrappeDraftReceipt) :
    (∃ e, e ≠ .integrityError ∧
      (acknowledgeMaterialization key workerId attempt now receipt).run s = (.error e, s)) ∨
    (∃ row, s.outbox.get? key = some row ∧ row.status = .succeeded ∧
      storedReceipt row = .ok receipt ∧
      (acknowledgeMaterialization key workerId attempt now receipt).run s = (.ok receipt, s)) ∨
    ∃ now' row, now = some now' ∧ receipt.requestId = key.2 ∧ isInteger receipt.revision = true ∧
      s.held? key workerId attempt now'.instant = some row ∧
      (acknowledgeMaterialization key workerId attempt now receipt).run s =
        (.ok receipt, s.put key (setSucceeded receipt now'.instant row)) := by
  rw [acknowledgeMaterialization, Proc.run_lift_bind]
  cases now with
  | none => exact .inl ⟨.raise _, by simp, rfl⟩
  | some now' =>
      simp only [checked, requireAware, Except.mapError]
      by_cases hrequest : receipt.requestId = key.2
      swap
      · simp only [ne_eq, hrequest, not_false_eq_true, if_true, Proc.run_throw_bind]
        exact .inl ⟨_, by simp, rfl⟩
      simp only [ne_eq, hrequest, not_true_eq_false, if_false]
      change (∃ e, e ≠ _ ∧ (Proc.atomically _).run s = _) ∨ (∃ row, _ ∧ _ ∧ _ ∧
        (Proc.atomically _).run s = _) ∨ ∃ now' row, _ ∧ _ ∧ _ ∧ _ ∧ (Proc.atomically _).run s = _
      rw [Proc.run_atomically, setSite, Proc.run_lift_bind]
      rcases parameters_cases [key.1] with ⟨hsite, -⟩ | ⟨hsite, -⟩
      swap
      · rw [hsite]
        exact .inl ⟨_, by simp, rfl⟩
      rw [hsite]
      dsimp only
      rw [Proc.run_lift_bind]
      rcases parameters_cases [key.2] with ⟨htexts, -⟩ | ⟨htexts, -⟩
      swap
      · rw [htexts]
        exact .inl ⟨_, by simp, rfl⟩
      rw [htexts]
      simp only [Proc.run_get_bind]
      cases hget : s.outbox.get? key with
      | none => exact .inl ⟨_, by simp [MaterializationError.validation], rfl⟩
      | some row =>
          dsimp only
          by_cases hstatus : row.status = .succeeded
          · rw [if_pos hstatus, Proc.run_lift]
            rcases replayReceipt_cases row receipt with ⟨hstored, hreplay⟩ | ⟨e, he, hreplay⟩
            · rw [hreplay]
              exact .inr (.inl ⟨row, rfl, hstatus, hstored, rfl⟩)
            · rw [hreplay]
              exact .inl ⟨e, he, rfl⟩
          · rw [if_neg hstatus]
            rcases run_completeRow hs attempt now'.instant receipt with
              ⟨e, he, hrun⟩ | ⟨row', hinteger, hheld, hrun⟩
            · rw [hrun]
              exact .inl ⟨e, he, rfl⟩
            · rw [hrun]
              exact .inr (.inr ⟨now', row', rfl, trivial, hinteger, hheld, rfl⟩)

theorem validateFailure_eq_ok {now retryAt : Option Datetime} {errorCode : String}
    {now' retryAt' : Datetime} (h : validateFailure now retryAt errorCode = .ok (now', retryAt')) :
    now = some now' ∧ retryAt = some retryAt' ∧ isCode errorCode = true := by
  obtain ⟨a, hnow, h⟩ := Proc.bind_eq_ok.mp h
  obtain ⟨b, hretry, h⟩ := Proc.bind_eq_ok.mp h
  obtain ⟨-, h⟩ := Proc.ite_throw_eq_ok.mp h
  obtain ⟨hcode, h⟩ := Proc.ite_throw_eq_ok.mp h
  obtain ⟨rfl, rfl⟩ := Prod.mk.inj (Except.ok.inj h)
  refine ⟨?_, ?_, by simpa using hcode⟩
  · cases now with
    | none => cases hnow
    | some d => rw [Except.ok.inj hnow]
  · cases retryAt with
    | none => cases hretry
    | some d => rw [Except.ok.inj hretry]

/-- A failure writes the row of its holder, or leaves the store alone. -/
theorem run_fail (hs : s.Sound) (attempt : ℤ) (now retryAt : Option Datetime) (errorCode : String) :
    (∃ e, e ≠ .integrityError ∧
      (failMaterialization key workerId attempt now retryAt errorCode).run s = (.error e, s)) ∨
    ∃ now' retryAt' row, now = some now' ∧ retryAt = some retryAt' ∧ isCode errorCode = true ∧
      s.held? key workerId attempt now'.instant = some row ∧
      (failMaterialization key workerId attempt now retryAt errorCode).run s =
        (.ok (if row.maxAttempts ≤ row.attempt then .deadLetter else .retry),
          s.put key (setFailed retryAt'.instant errorCode now'.instant row)) := by
  rw [failMaterialization, Proc.run_lift_bind]
  cases hvalid : checked (validateFailure now retryAt errorCode) with
  | error e =>
      obtain ⟨e', rfl⟩ := checked_eq_error hvalid
      exact .inl ⟨_, by simp, rfl⟩
  | ok times =>
      obtain ⟨now', retryAt'⟩ := times
      obtain ⟨hnow, hretry, hcode⟩ := validateFailure_eq_ok (checked_eq_ok.mp hvalid)
      dsimp only
      rw [Proc.run_atomically, setSite, Proc.run_lift_bind]
      rcases parameters_cases [key.1] with ⟨hsite, -⟩ | ⟨hsite, -⟩
      swap
      · rw [hsite]
        exact .inl ⟨_, by simp, rfl⟩
      rw [hsite]
      dsimp only
      rw [Proc.run_lift_bind]
      rcases parameters_cases [key.2, workerId] with ⟨htexts, -⟩ | ⟨htexts, -⟩
      swap
      · rw [htexts]
        exact .inl ⟨_, by simp, rfl⟩
      rw [htexts]
      dsimp only
      have hupdate := @run_settle s key workerId attempt now'.instant hs
        (setFailed retryAt'.instant errorCode now'.instant)
        fun row hstatus => .fail retryAt'.instant now'.instant hstatus hcode
      cases hheld : s.held? key workerId attempt now'.instant with
      | none =>
          rw [hheld] at hupdate
          rw [Proc.run_bind_ok hupdate]
          exact .inl ⟨leaseLost, by simp [leaseLost], rfl⟩
      | some row =>
          rw [hheld] at hupdate
          refine .inr ⟨now', retryAt', row, hnow, hretry, hcode, hheld, ?_⟩
          rw [Proc.run_bind_ok hupdate]
          by_cases hspent : row.maxAttempts ≤ row.attempt <;> simp [setFailed, hspent]

end Held

/-! ## Enqueueing -/

section Enqueue
variable {py : Stdlib} {s : Store}

/-- What a completion adds to the other tables takes nothing away. -/
structure Extends (s t : Store) : Prop where
  proposals : ∀ key row, s.proposals.get? key = some row → t.proposals.get? key = some row
  invocations : ∀ key identity, s.invocations.get? key = some identity →
    t.invocations.get? key = some identity

theorem Extends.refl (s : Store) : Extends s s := ⟨fun _ _ h => h, fun _ _ h => h⟩

theorem Extends.trans {s t u : Store} (h : Extends s t) (h' : Extends t u) : Extends s u :=
  ⟨fun key row hget => h'.proposals key row (h.proposals key row hget),
    fun key identity hget => h'.invocations key identity (h.invocations key identity hget)⟩

theorem run_appendInvocation (siteId : String) (e : String × ModelIdentity) (s : Store) :
    (∃ x, x ≠ .integrityError ∧ (appendInvocation siteId e).run s = (.error x, s)) ∨
      ∃ t, (appendInvocation siteId e).run s = (.ok (), t) ∧ t.outbox = s.outbox ∧
        t.proposals = s.proposals ∧ Extends s t := by
  rw [appendInvocation, Proc.run_get_bind]
  cases hget : s.invocations.get? (siteId, e.1) with
  | none =>
      refine .inr ⟨_, rfl, rfl, rfl, fun _ _ h => h, fun key identity hkey => ?_⟩
      rw [Dict.get?_set_of_ne]
      · exact hkey
      · rintro rfl
        rw [hget] at hkey
        cases hkey
  | some existing =>
      by_cases hsame : existing = e.2
      · refine .inr ⟨s, ?_, rfl, rfl, .refl s⟩
        simp [hsame]
      · refine .inl ⟨.raise (.idempotencyConflict
          "model invocation idempotency key was reused with different metadata"), by simp, ?_⟩
        simp [hsame]

theorem run_appendInvocations (siteId : String) (es : List (String × ModelIdentity)) (s : Store) :
    (∃ x t, x ≠ .integrityError ∧
      (es.forM (appendInvocation siteId)).run s = (.error x, t)) ∨
      ∃ t, (es.forM (appendInvocation siteId)).run s = (.ok (), t) ∧ t.outbox = s.outbox ∧
        t.proposals = s.proposals ∧ Extends s t := by
  induction es generalizing s with
  | nil => exact .inr ⟨s, rfl, rfl, rfl, .refl s⟩
  | cons e es ih =>
      change (∃ x t, _ ∧ (appendInvocation siteId e >>= fun _ =>
        es.forM (appendInvocation siteId)).run s = _) ∨ ∃ t, (appendInvocation siteId e >>= fun _ =>
          es.forM (appendInvocation siteId)).run s = _ ∧ _
      rcases run_appendInvocation siteId e s with ⟨x, hx, hrun⟩ | ⟨t, hrun, houtbox, hproposals, hext⟩
      · exact .inl ⟨x, s, hx, Proc.run_bind_error hrun⟩
      · rw [Proc.run_bind_ok hrun]
        rcases ih t with hfail | ⟨u, hrest, houtbox', hproposals', hext'⟩
        · exact .inl hfail
        · exact .inr ⟨u, hrest, houtbox'.trans houtbox, hproposals'.trans hproposals,
            hext.trans hext'⟩

/-- A completion adds a pending row under a key of its own, or leaves the store alone. -/
theorem run_enqueue (py : Stdlib) (bundle : Bundle) (now : Timestamptz) (s : Store) :
    (∃ x, x ≠ .integrityError ∧ (enqueue py bundle now).run s = (.error x, s)) ∨
      ∃ t, (enqueue py bundle now).run s = (.ok (), t) ∧ Extends s t ∧
        t.proposals.get? (bundle.siteId, bundle.proposalId) = some bundle.proposal ∧
        s.outbox.get? (bundle.siteId, materializationIdOf py bundle.siteId bundle.proposalId)
          = none ∧
        t.outbox = s.outbox.set
          (bundle.siteId, materializationIdOf py bundle.siteId bundle.proposalId)
          (pendingRow bundle.proposalId bundle.proposal.taskId bundle.taskAttempt now) := by
  rw [enqueue, Proc.run_atomically]
  rcases run_appendInvocations bundle.siteId bundle.invocations s with
    ⟨x, t, hx, hrun⟩ | ⟨t, hrun, houtbox, hproposals, hext⟩
  · rw [Proc.run_bind_error hrun]
    exact .inl ⟨x, hx, rfl⟩
  · rw [Proc.run_bind_ok hrun]
    simp only [Proc.run_get_bind]
    cases hproposal : t.proposals.get? (bundle.siteId, bundle.proposalId) with
    | some row => exact .inl ⟨.uniqueViolation, by simp, by simp⟩
    | none =>
        cases hrow : t.outbox.get?
            (bundle.siteId, materializationIdOf py bundle.siteId bundle.proposalId) with
        | some row => exact .inl ⟨.uniqueViolation, by simp, by simp⟩
        | none =>
            cases htaken : t.outbox.items.any (isTaken bundle) with
            | true => exact .inl ⟨.uniqueViolation, by simp, by simp⟩
            | false =>
                refine .inr ⟨{ t with
                    proposals := t.proposals.set (bundle.siteId, bundle.proposalId) bundle.proposal
                    outbox := t.outbox.set
                      (bundle.siteId, materializationIdOf py bundle.siteId bundle.proposalId)
                      (pendingRow bundle.proposalId bundle.proposal.taskId bundle.taskAttempt now) },
                  by simp, ⟨fun key row hget => ?_, hext.invocations⟩,
                  Dict.get?_set_self _ _ _, houtbox ▸ hrow, by rw [← houtbox]⟩
                rw [Dict.get?_set_of_ne]
                · exact hext.proposals key row hget
                · rintro rfl
                  rw [hext.proposals _ row hget] at hproposal
                  cases hproposal

end Enqueue
end EsanGbos.AgentRuntime.Materialization
