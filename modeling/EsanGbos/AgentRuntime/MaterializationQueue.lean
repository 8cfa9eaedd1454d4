import EsanGbos.Lib.Paging
import EsanGbos.Metrics.Repository
import EsanGbos.AgentRuntime.MaterializationRuns

/-!
# The queue of due materializations

Claims made at one time hand out the due rows in their order. A claim that cannot read the bundle of
a row raises and leaves the row where it was, so the rows behind it are not reached.

## Main definitions

* `dueRows` — the rows that are due, in their order.
* `handOut` — what claims answer.

## Main results

* `run_claims` — the answers of claims made at one time, from any state of any run.
-/
namespace EsanGbos.AgentRuntime.Materialization
open Lib
open Metrics (IsOrder isOrder_codePoints)
open Repository (requireAware requirePositive)

/-! ## The order -/

section Order
variable {collation : Collation}

theorem precedes_total (horder : IsOrder collation) (e e' : Entry) :
    precedes collation e e' ∨ precedes collation e' e := by
  unfold precedes
  rcases lt_trichotomy e.2.nextAttemptAt e'.2.nextAttemptAt with h | h | h
  · exact .inl (.inl h)
  · rcases lt_trichotomy e.2.createdAt e'.2.createdAt with h' | h' | h'
    · exact .inl (.inr ⟨h, .inl h'⟩)
    · rcases horder.total e.1.2 e'.1.2 with hle | hle
      · exact .inl (.inr ⟨h, .inr ⟨h', hle⟩⟩)
      · exact .inr (.inr ⟨h.symm, .inr ⟨h'.symm, hle⟩⟩)
    · exact .inr (.inr ⟨h.symm, .inl h'⟩)
  · exact .inr (.inl h)

theorem precedes_trans (horder : IsOrder collation) {e e' e'' : Entry}
    (h : precedes collation e e') (h' : precedes collation e' e'') : precedes collation e e'' := by
  unfold precedes at *
  rcases h with h | ⟨hnext, h⟩ <;> rcases h' with h' | ⟨hnext', h'⟩
  · exact .inl (h.trans h')
  · exact .inl (hnext' ▸ h)
  · exact .inl (hnext ▸ h')
  · refine .inr ⟨hnext.trans hnext', ?_⟩
    rcases h with h | ⟨hcreated, h⟩ <;> rcases h' with h' | ⟨hcreated', h'⟩
    · exact .inl (h.trans h')
    · exact .inl (hcreated' ▸ h)
    · exact .inl (hcreated ▸ h')
    · exact .inr ⟨hcreated.trans hcreated', horder.trans _ _ _ h h'⟩

/-- The order tells the identifiers apart. -/
theorem precedes_antisymm (horder : IsOrder collation) {e e' : Entry}
    (h : precedes collation e e') (h' : precedes collation e' e) : e.1.2 = e'.1.2 := by
  unfold precedes at *
  rcases h with h | ⟨hnext, h⟩ <;> rcases h' with h' | ⟨hnext', h'⟩
  · exact absurd h (lt_asymm h')
  · exact absurd hnext'.symm h.ne
  · exact absurd hnext.symm h'.ne
  · rcases h with h | ⟨hcreated, h⟩ <;> rcases h' with h' | ⟨hcreated', h'⟩
    · exact absurd h (lt_asymm h')
    · exact absurd hcreated'.symm h.ne
    · exact absurd hcreated.symm h'.ne
    · exact horder.antisymm _ _ h h'

end Order

/-! ## Due rows -/

/-- The rows that are due, in the order in which they are handed out. -/
def dueRows (collation : Collation) (siteId : String) (now : Timestamptz) (s : Store) : List Entry :=
  (s.outbox.items.filter (isDue siteId now)).insertionSort (precedes collation)

section Due
variable {collation : Collation} {siteId : String} {now : Timestamptz} {s : Store}

theorem candidate_eq_head? : candidate collation (fun _ => false) siteId now s.outbox =
    (dueRows collation siteId now s).head? := by
  simp only [candidate, dueRows, Bool.not_false, Bool.and_true]

/-- A list whose other elements a map keeps from a condition. -/
theorem filter_map_eq {l : List Entry} {p : Entry → Bool} {f : Entry → Entry}
    (h : ∀ e ∈ l, (p e = true ∧ f e = e) ∨ (p e = false ∧ p (f e) = false)) :
    (l.map f).filter p = l.filter p := by
  induction l with
  | nil => rfl
  | cons e l ih =>
      obtain ⟨he, hl⟩ := List.forall_mem_cons.mp h
      rw [List.map_cons, List.filter_cons, List.filter_cons, ih hl]
      rcases he with ⟨hp, hf⟩ | ⟨hp, hf⟩
      · rw [hf]
      · simp [hf, hp]

/-- The first statement of a claim leaves the due rows alone. -/
theorem dueRows_swept : dueRows collation siteId now (s.swept siteId now) =
    dueRows collation siteId now s := by
  rw [dueRows, dueRows]
  congr 1
  refine filter_map_eq fun e _ => ?_
  by_cases hexhausted : isExhausted siteId now e = true
  · right
    rw [if_pos hexhausted]
    simp only [isExhausted, Bool.and_eq_true, decide_eq_true_eq] at hexhausted
    have hspent : ¬e.2.attempt < e.2.maxAttempts := not_lt.mpr hexhausted.2
    constructor
    · simp [isDue, hspent]
    · simp [isDue, setDeadLettered]
  · rw [if_neg hexhausted]
    by_cases hdue : isDue siteId now e = true
    · exact .inl ⟨hdue, rfl⟩
    · exact .inr ⟨by simpa using hdue, by simpa using hdue⟩

theorem mem_dueRows {e : Entry} : e ∈ dueRows collation siteId now s ↔
    s.outbox.get? e.1 = some e.2 ∧ isDue siteId now e = true := by
  rw [dueRows, List.mem_insertionSort, List.mem_filter, ← Dict.mem_items]

/-- The due rows are different rows of one site. -/
theorem eq_of_mem_dueRows (horder : IsOrder collation) {e e' : Entry}
    (he : e ∈ s.outbox.items.filter (isDue siteId now))
    (he' : e' ∈ s.outbox.items.filter (isDue siteId now)) (h : precedes collation e e')
    (h' : precedes collation e' e) : e = e' := by
  obtain ⟨hmem, hdue⟩ := List.mem_filter.mp he
  obtain ⟨hmem', hdue'⟩ := List.mem_filter.mp he'
  refine s.outbox.entries.eq_of_key hmem hmem' (Prod.ext ?_ (precedes_antisymm horder h h'))
  rw [(isDue_iff.mp hdue).1, (isDue_iff.mp hdue').1]

/-- A row that has been handed out is not due, and the others are as they were. -/
theorem dueRows_put (horder : IsOrder collation) {e : Entry} {rest : List Entry}
    (hdue : dueRows collation siteId now s = e :: rest) {workerId : String} {expiry : Timestamptz}
    (hexpiry : now < expiry) :
    dueRows collation siteId now (s.put e.1 (setClaimed workerId now expiry e.2)) = rest := by
  have htotal : Std.Total (precedes collation) := ⟨precedes_total horder⟩
  have htrans : IsTrans Entry (precedes collation) := ⟨fun _ _ _ => precedes_trans horder⟩
  obtain ⟨hget, hdue'⟩ : s.outbox.get? e.1 = some e.2 ∧ isDue siteId now e = true :=
    mem_dueRows.mp (hdue ▸ List.mem_cons_self)
  have hclaimed : isDue siteId now (e.1, setClaimed workerId now expiry e.2) = false := by
    simp [isDue, setClaimed, not_le.mpr hexpiry]
  obtain ⟨front, back, hitems, hset⟩ := Dict.exists_items_set hget
  have hrows : s.outbox.items.filter (isDue siteId now) =
      front.filter (isDue siteId now) ++ e :: back.filter (isDue siteId now) := by
    rw [hitems, List.filter_append, List.filter_cons_of_pos hdue']
  have hrows' : (s.put e.1 (setClaimed workerId now expiry e.2)).outbox.items.filter
      (isDue siteId now) = front.filter (isDue siteId now) ++ back.filter (isDue siteId now) := by
    rw [Store.outbox_put, hset, List.filter_append, List.filter_cons_of_neg (by simp [hclaimed])]
  -- both lists are sorted, and have the same rows
  have hperm : (front.filter (isDue siteId now) ++ back.filter (isDue siteId now)).Perm rest := by
    refine List.Perm.cons_inv (a := e) ?_
    rw [← hdue, dueRows, hrows]
    exact List.perm_middle.symm.trans (List.perm_insertionSort _ _).symm
  have hsorted : (e :: rest).Pairwise (precedes collation) := by
    rw [← hdue]
    exact List.pairwise_insertionSort _ _
  rw [dueRows, hrows']
  refine ((List.perm_insertionSort _ _).trans hperm).eq_of_pairwise (fun a b ha hb hab hba => ?_)
    (List.pairwise_insertionSort _ _) hsorted.of_cons
  have hmem : ∀ a ∈ rest, a ∈ s.outbox.items.filter (isDue siteId now) := fun a ha =>
    (List.mem_insertionSort _).mp (show a ∈ dueRows collation siteId now s from
      hdue ▸ List.mem_cons_of_mem e ha)
  exact eq_of_mem_dueRows horder (hmem a (hperm.mem_iff.mp ((List.mem_insertionSort _).mp ha)))
    (hmem b hb) hab hba

end Due

/-! ## Claims at one time -/

/-- What a claim asks for besides the site and the time. -/
structure Claimant where
  workerId : String
  leaseDuration : Timedelta

/-- The call of a worker that finds no row locked. -/
def Claimant.call (w : Claimant) (siteId : String) (now : Datetime) : Call :=
  .claim (fun _ => false) siteId w.workerId (some now) w.leaseDuration

/-- The claim of the worker is well formed. -/
def Claimant.CanClaim (w : Claimant) (siteId : String) (now : Datetime) : Prop :=
  siteId ≠ "" ∧ w.workerId ≠ "" ∧ 0 < w.leaseDuration ∧
    [siteId, w.workerId].all isText = true ∧ (now.add w.leaseDuration).isSome = true

/-- What the claims of workers answer, from the rows that are due. -/
def handOut (s : Store) (now : Datetime) : List Entry → List Claimant →
    List (Except MaterializationError Answer)
  | _, [] => []
  | [], _ :: ws => .ok (.claimed none) :: handOut s now [] ws
  | e :: rest, w :: ws =>
      let expiry := now.instant + w.leaseDuration
      match claimOf s e.1 (setClaimed w.workerId now.instant expiry e.2) w.workerId expiry with
      | .ok claim => .ok (.claimed (some claim)) :: handOut s now rest ws
      | .error err => .error err :: handOut s now (e :: rest) ws

section Claims
variable {py : Stdlib} {collation : Collation} {siteId : String} {now : Datetime} {s t : Store}

theorem handOut_congr (h : claimOf s = claimOf t) (rows : List Entry) (ws : List Claimant) :
    handOut s now rows ws = handOut t now rows ws := by
  induction ws generalizing rows with
  | nil => cases rows <;> rfl
  | cons w ws ih =>
      cases rows with
      | nil => simp only [handOut, ih]
      | cons e rest => simp only [handOut, h, ih]

/-- One claim, from the rows that are due. -/
theorem step_call (hs : s.Sound) {w : Claimant} (hw : w.CanClaim siteId now) :
    (machine py collation).step s (w.call siteId now) =
      match dueRows collation siteId now.instant s with
      | [] => (.ok (.claimed none), s.swept siteId now.instant)
      | e :: _ =>
          let expiry := now.instant + w.leaseDuration
          let claimed := setClaimed w.workerId now.instant expiry e.2
          match claimOf s e.1 claimed w.workerId expiry with
          | .ok claim => (.ok (.claimed (some claim)), (s.swept siteId now.instant).put e.1 claimed)
          | .error err => (.error err, s) := by
  obtain ⟨hsite, hworker, hduration, htexts, hsome⟩ := hw
  obtain ⟨expiry, hexpiry⟩ := Option.isSome_iff_exists.mp hsome
  have hvalid : validateClaim siteId w.workerId (some now) w.leaseDuration = .ok now := by
    have hpositive : requirePositive w.leaseDuration "lease_duration" = .ok () :=
      if_neg (not_le.mpr hduration)
    simp only [validateClaim, requireAware, bind, Except.bind, hsite, hworker, or_self, if_false,
      hpositive]
    rfl
  have hend : Repository.leaseEnd now w.leaseDuration = .ok expiry := by
    rw [Repository.leaseEnd, hexpiry]
  have hinstant : expiry.instant = now.instant + w.leaseDuration := (Datetime.of?_eq_some hexpiry).1
  change ((_ <$> claimMaterialization collation _ siteId w.workerId (some now)
    w.leaseDuration).run s) = _
  rw [Proc.run_map]
  rcases @run_claim s collation (fun _ => false) siteId w.workerId hs (some now) w.leaseDuration with
    ⟨-, hnone⟩ | ⟨hrun, hbad⟩ | ⟨now', expiry', hvalid', hend', -, hrun⟩
  · exact absurd hend (hnone now hvalid expiry)
  · rw [htexts] at hbad
    cases hbad
  · obtain rfl := Except.ok.inj (hvalid.symm.trans hvalid')
    obtain rfl := Except.ok.inj (hend.symm.trans hend')
    rw [hrun, takeCandidate, candidate_eq_head?, dueRows_swept, hinstant]
    cases dueRows collation siteId now.instant s with
    | nil => rfl
    | cons e rest =>
        dsimp only [List.head?_cons]
        change _ = match claimOf (s.swept siteId now.instant) _ _ _ _ with
          | .ok claim => _
          | .error err => _
        cases claimOf (s.swept siteId now.instant) e.1 (setClaimed w.workerId now.instant
          (now.instant + w.leaseDuration) e.2) w.workerId (now.instant + w.leaseDuration) <;> rfl

/-- The claims of workers, one after the other. -/
theorem trace_claims (horder : IsOrder collation) (hs : s.Sound) {ws : List Claimant}
    (hws : ∀ w ∈ ws, w.CanClaim siteId now) :
    ((machine py collation).trace s (ws.map fun w => w.call siteId now)).map Prod.snd =
      handOut s now (dueRows collation siteId now.instant s) ws := by
  induction ws generalizing s with
  | nil => cases dueRows collation siteId now.instant s <;> rfl
  | cons w ws ih =>
      obtain ⟨hw, hws⟩ := List.forall_mem_cons.mp hws
      have hsound : ((machine py collation).step s (w.call siteId now)).2.Sound := hs.step _
      have hstep := @step_call py collation siteId now s hs w hw
      rw [List.map_cons, Machine.trace_cons, List.map_cons, ih hsound hws]
      cases hdue : dueRows collation siteId now.instant s with
      | nil =>
          rw [hdue] at hstep
          rw [hstep, handOut]
          dsimp only
          rw [dueRows_swept, hdue]
          exact congrArg _ (handOut_congr (by rfl) [] ws)
      | cons e rest =>
          rw [hdue] at hstep
          dsimp only at hstep
          rw [hstep, handOut]
          cases claimOf s e.1 (setClaimed w.workerId now.instant (now.instant + w.leaseDuration) e.2)
              w.workerId (now.instant + w.leaseDuration) with
          | ok claim =>
              dsimp only
              have hexpiry : now.instant < now.instant + w.leaseDuration :=
                lt_add_of_pos_right _ hw.2.2.1
              rw [dueRows_put horder (dueRows_swept.trans hdue) hexpiry]
              exact congrArg _ (handOut_congr (by rfl) rest ws)
          | error err =>
              dsimp only
              rw [hdue]

/-- Claims made at one time hand out the due rows in their order, each of them once, and then
nothing. A row whose bundle cannot be read refuses every claim, and keeps the rows behind it from
being handed out. -/
theorem run_claims (py : Stdlib) (horder : IsOrder collation) (calls : List Call)
    {ws : List Claimant} (hws : ∀ w ∈ ws, w.CanClaim siteId now) :
    ((machine py collation).trace ((machine py collation).final {} calls)
        (ws.map fun w => w.call siteId now)).map Prod.snd =
      handOut ((machine py collation).final {} calls) now
        (dueRows collation siteId now.instant ((machine py collation).final {} calls)) ws :=
  trace_claims horder (sound_final calls) hws

end Claims

/-! ### A bundle that cannot be read -/

/-- A proposal that `models` have made, each in a call of its own. -/
theorem firstAttempt_pos : 1 ≤ (1 : ℤ) := le_rfl

def bundleOf (proposalId : String) (models : List String) : Bundle where
  siteId := "acme"
  proposalId := proposalId
  taskAttempt := 1
  attempt_pos := firstAttempt_pos
  proposal := {
    taskId := proposalId
    processingPurpose := "REFUND_REVIEW"
    actionType := "create_review_case"
    origin := "AI"
    reviewStatus := "AI Draft"
    subjectType := "GBOS Commercial Lead"
    subjectRef := "lead-1"
    subjectRevision := 1
    evidenceRefs := .arr []
    invocationIds := .arr (models.map fun model => .str (proposalId ++ model))
    document := .obj [] }
  invocations := models.map fun model => (proposalId ++ model, ⟨model, none⟩)

def twoClaimants : List Claimant := [⟨"worker-1", seconds 60⟩, ⟨"worker-2", seconds 60⟩]

/-- Two proposals wait. The first one was made by two models, and no claim gets beyond it. -/
theorem run_claims_mixed :
    ((machine (Stdlib.ascii []) codePoints).trace
        ((machine (Stdlib.ascii []) codePoints).final {}
          [.enqueue (bundleOf "first" ["small", "large"]) 0, .enqueue (bundleOf "second" ["small"]) 1])
        (twoClaimants.map fun w => w.call "acme" newYear)).map Prod.snd =
      List.replicate 2 (.error
        (.validation "materialization model invocation identity is ambiguous")) := by
  refine (@run_claims codePoints "acme" newYear (Stdlib.ascii []) isOrder_codePoints
    [.enqueue (bundleOf "first" ["small", "large"]) 0, .enqueue (bundleOf "second" ["small"]) 1]
    twoClaimants ?_).trans ?_
  · unfold Claimant.CanClaim
    decide +kernel
  · decide +kernel

end EsanGbos.AgentRuntime.Materialization
