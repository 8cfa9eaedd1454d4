import EsanGbos.ModelGateway.Spending

/-!
# The audit of model invocations

A logical call that reached the provider is recorded exactly if its environment behaves and its
request fits a record. A record is built only after the charge, by a constructor with limits of its
own, so that what it refuses is charged and never recorded.

## Main definitions

* `Emitted` — the end of a logical call, with its record or without one.
* `Shows` — how a run divides into its call and its end.

## Main results

* `invoke_recorded_iff` — a call is recorded exactly if it is sound.
-/
namespace EsanGbos.ModelGateway.DeepSeek
open Lib AgentRuntime

/-! ## The record -/

section Record
variable {py : Stdlib} {adapter : Adapter} {request : TokenizedModelRequest py} {attempt : ℕ}
  {startedAt completedAt : Datetime} {latency : ℤ} {report : Report} {monthly : Number}

/-- The report fits a record. -/
structure Report.Fits (adapter : Adapter) (report : Report) : Prop where
  observedModel : Within 160 report.observedModel
  responseId : Within 256 report.responseId
  cost : report.cost.Auditable
  code : ∀ code ∈ report.errorCode, code ∈ errorCodes
  output : ∀ output ∈ report.output, adapter.canEncode output = true

/-- A success has an output, and a failure has a code. -/
def Report.Shaped (report : Report) : Prop :=
  (report.status = .succeeded ∧ report.errorCode = none ∧ report.output ≠ none) ∨
    (report.status = .failed ∧ report.errorCode ≠ none ∧ report.output = none)

theorem orArithmetic_eq_ok {α : Type} {x : Option α} {a : α} :
    orArithmetic x = .ok a ↔ x = some a := by
  cases x with
  | none => exact iff_of_false (fun h => by cases h) fun h => by cases h
  | some b => exact ⟨fun h => congrArg some (Except.ok.inj h), fun h => by rw [h]; rfl⟩

theorem outputDigest_eq_ok {output : Json} {digest : String} :
    outputDigest adapter py output = .ok digest ↔
      adapter.canEncode output = true ∧ digest = py.sha256 (sortKeys output).dumps := by
  unfold outputDigest
  by_cases hencode : adapter.canEncode output = true
  · rw [if_pos hencode]
    exact ⟨fun h => ⟨hencode, (Except.ok.inj h).symm⟩, fun h => congrArg _ h.2.symm⟩
  · rw [if_neg hencode]
    exact iff_of_false (fun h => by cases h) fun h => hencode h.1

theorem referencesOf_ne_none : referencesOf request ≠ none ↔
    ∀ ref ∈ request.tokenizationReceiptId :: request.evidenceRefs,
      ref ≠ "" ∧ ref.length ≤ 256 := by
  have hnodup := request.evidenceRefs_nodup.2
  unfold referencesOf
  split
  next h =>
    refine iff_of_true (Option.some_ne_none _) ?_
    simp only [List.forall_mem_cons, List.not_mem_nil, IsEmpty.forall_iff, implies_true,
      and_true] at h ⊢
    exact ⟨h.2.2.2, h.2.1.2⟩
  next h =>
    refine iff_of_false (fun hnone => hnone rfl) fun hrefs => h ?_
    rw [List.forall_mem_cons] at hrefs
    simp only [List.forall_mem_cons, List.not_mem_nil, IsEmpty.forall_iff, implies_true, and_true]
    exact ⟨List.nodup_nil, ⟨hnodup, hrefs.2⟩, List.nodup_singleton _, hrefs.1⟩

theorem budgetStatus_eq_none {errorCode : Option String} :
    budgetStatus errorCode monthly = none ↔ monthly = .nan ∧
      errorCode ≠ some "network_disabled" ∧ errorCode ≠ some "budget_hard_stop" := by
  unfold budgetStatus
  by_cases hdisabled : errorCode = some "network_disabled"
  · rw [if_pos hdisabled]
    exact iff_of_false (Option.some_ne_none _) fun h => h.2.1 hdisabled
  by_cases hstop : errorCode = some "budget_hard_stop"
  · rw [if_neg hdisabled, if_pos hstop]
    exact iff_of_false (Option.some_ne_none _) fun h => h.2.2 hstop
  rw [if_neg hdisabled, if_neg hstop, Option.map_eq_none_iff]
  cases monthly <;> simp [Number.reaches, hdisabled, hstop]

theorem latencyMs_nonneg {started ended : Option ℚ} (h : latencyMs started ended = some latency) :
    0 ≤ latency := by
  unfold latencyMs at h
  obtain ⟨b, -, h⟩ := Option.bind_eq_some_iff.mp h
  obtain ⟨a, -, h⟩ := Option.bind_eq_some_iff.mp h
  dsimp only at h
  split at h
  · cases h
  · obtain rfl := Option.some.inj h
    exact le_max_left _ _

theorem length_identityDigest (hhex : py.HexDigests) :
    (invocationIdentityDigest request attempt).length = 64 := by
  have h : isDigest (invocationIdentityDigest request attempt) = true := hhex _
  unfold isDigest at h
  rw [Bool.and_eq_true, decide_eq_true_eq] at h
  exact h.1

/-- An identifier of a call is a mark and a digest. -/
theorem within_identity (hhex : py.HexDigests) {mark : String} (hmark : mark.length ≤ 192) :
    mark ++ invocationIdentityDigest request attempt ≠ "" ∧
      (mark ++ invocationIdentityDigest request attempt).length ≤ 256 := by
  have hlength := @length_identityDigest _ request attempt hhex
  refine ⟨fun hempty => ?_, ?_⟩
  · have hzero := congrArg String.length hempty
    rw [String.length_append, hlength] at hzero
    exact absurd hzero (by simp)
  · rw [String.length_append, hlength]
    omega

theorem isKnown_auditCost {cost : CostSnapshot} {metadata : CostMetadata}
    (h : auditCost cost = .ok metadata) : metadata.isKnown = cost.isKnown := by
  unfold auditCost at h
  split at h
  next hunknown =>
    obtain rfl := Except.ok.inj h
    exact hunknown.symm
  next hknown =>
    have hknown := (Bool.not_eq_false _).mp hknown
    split at h
    · split at h
      · obtain rfl := Except.ok.inj h
        exact hknown.symm
      · cases h
    · cases h
    · cases h

/-- A record is built only of a report and a request that fit, at times in order. -/
theorem fits_of_recordOf {record : ModelInvocationRecord}
    (h : recordOf adapter request attempt startedAt completedAt latency report monthly =
      .ok record) :
    (FitsRecord request ∧ report.Fits adapter ∧ startedAt.instant ≤ completedAt.instant ∧
      budgetStatus report.errorCode monthly ≠ none) ∧
      auditCost report.cost = .ok record.cost ∧ record.networkCallCount = report.networkCalls := by
  unfold recordOf at h
  obtain ⟨status, hstatus, h⟩ := Proc.bind_eq_ok.mp h
  obtain ⟨cost, hcost, h⟩ := Proc.bind_eq_ok.mp h
  obtain ⟨references, hreferences, h⟩ := Proc.bind_eq_ok.mp h
  obtain ⟨digest, hdigests, h⟩ := Proc.bind_eq_ok.mp h
  rw [orArithmetic_eq_ok] at hstatus hreferences
  dsimp only at h
  split at h
  swap
  · cases h
  next hpost =>
    obtain rfl := Except.ok.inj h
    obtain ⟨hchecked, hpriced⟩ := InvocationStore.checked_and_priced hpost
    have hrequired := hchecked.required
    have hoptional := hchecked.optional
    simp only [List.forall_mem_cons, List.not_mem_nil, IsEmpty.forall_iff, implies_true,
      and_true] at hrequired hoptional
    obtain ⟨-, hsite, -, -, hprompt, -, -, htokenizer, hrequest, -⟩ := hrequired
    refine ⟨⟨⟨⟨hchecked.site, hsite.2⟩, ⟨hprompt.2, htokenizer.2⟩, hrequest.2, ?_⟩,
      ⟨hoptional.1, hoptional.2.1, ⟨⟨cost, hcost⟩, hoptional.2.2, ?_⟩, hchecked.error, ?_⟩,
      hchecked.times.1, ?_⟩, hcost, rfl⟩
    · exact referencesOf_ne_none.mp (by rw [hreferences]; exact Option.some_ne_none _)
    · rw [← isKnown_auditCost hcost]
      exact hpriced
    · intro output houtput
      rw [Option.mem_def.mp houtput] at hdigests
      obtain ⟨text, htext, -⟩ := Proc.bind_eq_ok.mp hdigests
      exact (outputDigest_eq_ok.mp htext).1
    · rw [hstatus]
      exact Option.some_ne_none _

/-- What fits is recorded. -/
theorem exists_recordOf (hhex : py.HexDigests) (hattempt : 1 ≤ attempt)
    (hshaped : report.Shaped) (hlatency : 0 ≤ latency)
    (hfits : FitsRecord request) (hreport : report.Fits adapter)
    (htimes : startedAt.instant ≤ completedAt.instant)
    (hbudget : budgetStatus report.errorCode monthly ≠ none) :
    ∃ record, recordOf adapter request attempt startedAt completedAt latency report monthly =
      .ok record := by
  obtain ⟨status, hstatus⟩ := Option.ne_none_iff_exists'.mp hbudget
  obtain ⟨references, hreferences⟩ :=
    Option.ne_none_iff_exists'.mp (referencesOf_ne_none.mpr hfits.references)
  obtain ⟨cost, hcost⟩ := hreport.cost.amount
  obtain ⟨digest, hdigests, hdigest, hpresent⟩ : ∃ digest,
      report.output.mapM (outputDigest adapter py) = .ok digest ∧
        (∀ text ∈ digest, isDigest text = true) ∧ (report.output ≠ none → digest ≠ none) := by
    cases houtput : report.output with
    | none => exact ⟨none, rfl, fun _ h => (by cases h), fun h => (h rfl).elim⟩
    | some output =>
        have hencode := hreport.output output houtput
        refine ⟨some (py.sha256 (sortKeys output).dumps), ?_, ?_, fun _ => Option.some_ne_none _⟩
        · rw [Option.mapM_some, outputDigest_eq_ok.mpr ⟨hencode, rfl⟩]
          rfl
        · intro text htext
          obtain rfl := Option.some.inj htext
          exact hhex _
  unfold recordOf
  simp only [hstatus, hreferences, hcost, hdigests, orArithmetic, Proc.ok_bind]
  refine ⟨_, dif_pos ?_⟩
  have hrequired := request.required
  simp only [List.forall_mem_cons, List.not_mem_nil, IsEmpty.forall_iff, implies_true,
    and_true] at hrequired
  refine InvocationStore.postInit_eq_ok ⟨hfits.site.1, ?_, ?_, ⟨htimes, Option.some_ne_none _⟩, ?_,
    ?_, ?_, ?_, ?_, hreport.code, hdigest, ?_⟩ ?_ ?_
  · simp only [List.forall_mem_cons, List.not_mem_nil, IsEmpty.forall_iff, implies_true, and_true]
    refine ⟨within_identity hhex (by decide), ⟨hrequired.2.1, hfits.site.2⟩, by decide, by decide,
      ⟨hrequired.2.2.2.2.1, hfits.versions.1⟩, ?_, by decide,
      ⟨hrequired.2.2.2.2.2.2.2, hfits.versions.2⟩, ⟨hrequired.1, hfits.requestId⟩,
      within_identity hhex (by decide)⟩
    cases request.agentKind <;> decide
  · simp only [List.forall_mem_cons, List.not_mem_nil, IsEmpty.forall_iff, implies_true, and_true]
    exact ⟨hreport.observedModel, hreport.responseId, hreport.cost.catalog⟩
  · intro value hvalue
    obtain rfl := Option.some.inj hvalue
    exact hlatency
  · intro count hcount
    simp only [List.mem_cons, List.not_mem_nil, or_false] at hcount
    omega
  · have hpositive : (1 : ℤ) ≤ attempt := by exact_mod_cast hattempt
    exact ⟨hpositive, le_max_right _ _⟩
  · dsimp only
    omega
  · intro code hcode
    exact (Option.filter_eq_some_iff.mp hcode).2
  · dsimp only
    rcases hshaped with ⟨hstatus, hcode, -⟩ | ⟨hstatus, hcode, -⟩
    · exact iff_of_true hstatus hcode
    · rw [hstatus]
      exact iff_of_false (by decide) hcode
  · intro hsucceeded
    rcases hshaped with ⟨-, -, houtput⟩ | ⟨hfailed, -⟩
    · exact hpresent houtput
    · cases hfailed.symm.trans hsucceeded
  · rw [isKnown_auditCost hcost]
    exact hreport.cost.priced

end Record
/-! ## The end of a logical call -/

section Closing
variable {py : Stdlib} {adapter : Adapter} {request : TokenizedModelRequest py} {attempt : ℕ}
  {startedAt : Datetime} {startedTick : Option ℚ} {report : Report} {es : List Event} {e : Event}

/-- What is kept at the end of a logical call, for its record to be built. -/
structure Closes (adapter : Adapter) (request : TokenizedModelRequest py) (startedAt : Datetime)
    (startedTick : Option ℚ) (report : Report) (es : List Event) : Prop where
  fits : FitsRecord request
  reported : report.Fits adapter
  expected : ∀ e ∈ es, Expected adapter request e
  clock : ∀ time ∈ times es, startedAt.instant ≤ time.instant
  latency : ∀ tick ∈ ticks es, latencyMs startedTick tick ≠ none
  budget : (∃ e ∈ es, isNan e) →
    report.errorCode = some "network_disabled" ∨ report.errorCode = some "budget_hard_stop"

/-- The record is handed over, or something is not kept. -/
inductive Emitted (adapter : Adapter) (request : TokenizedModelRequest py) (startedAt : Datetime)
    (startedTick : Option ℚ) (report : Report) (es : List Event) : Prop
  | recorded (record : ModelInvocationRecord) (recorded : records es = [record])
      (cost : auditCost report.cost = .ok record.cost)
      (calls : record.networkCallCount = report.networkCalls)
      (once : (times es).length ≤ 1 ∧ (ticks es).length ≤ 1)
      (closes : Closes adapter request startedAt startedTick report es)
  | refused (unrecorded : records es = [])
      (fails : ¬Closes adapter request startedAt startedTick report es)
      (raises : ∀ e ∈ es, Raises Stops e → ¬Expected adapter request e)

/-- The end of a call neither counts nor costs anything. -/
theorem free_of_not_inCall (h : ¬InCall e) :
    isPost e = false ∧ charge? e = none ∧ price? adapter e = none ∧ isAmbiguous e = false ∧
      isSettled e = false ∧ output? adapter request e = none := by
  rcases e with ⟨⟨k, op⟩, answer⟩
  cases op <;> first | exact ⟨rfl, rfl, rfl, rfl, rfl, rfl⟩ | exact (h trivial).elim

/-- The clock gives a time, or something that is not expected of it. -/
theorem runs_validatedClockNow {outcome : Except Exn Datetime}
    (h : (validatedClockNow attempt).Runs es outcome) :
    ∃ answer, es = [⟨(attempt, .clock), answer⟩] ∧
      ((∃ time, answer = .ok (some time) ∧ outcome = .ok time) ∨
        (∃ x, outcome = .error x) ∧ ¬Expected adapter request ⟨(attempt, .clock), answer⟩) := by
  unfold validatedClockNow at h
  replace h := Prog.runs_invoke_bind.mp h
  rcases h with ⟨x, rfl, rfl⟩ | ⟨time, rest, rfl, h⟩
  · exact ⟨.error x, rfl, .inr ⟨⟨x, rfl⟩, not_false⟩⟩
  change Option Datetime at time
  cases time with
  | none =>
      obtain ⟨rfl, rfl⟩ := h
      exact ⟨.ok none, rfl, .inr ⟨⟨_, rfl⟩, fun hsome => hsome rfl⟩⟩
  | some time =>
      obtain ⟨rfl, rfl⟩ := h
      exact ⟨.ok (some time), rfl, .inl ⟨time, rfl, rfl⟩⟩

def Reading : Event → Prop
  | ⟨(_, .clock), _⟩ | ⟨(_, .monotonic), _⟩ | ⟨(_, .monthlyCostUsd), _⟩ => True
  | _ => False

theorem Reading.raises (h : Reading e) :
    ¬InCall e ∧ record? e = none ∧ (Raises Stops e → ¬Expected adapter request e) := by
  rcases e with ⟨⟨k, op⟩, answer⟩
  cases op <;> first
    | exact h.elim
    | (refine ⟨not_false, rfl, fun hraises hexpected => ?_⟩
       cases answer with
       | ok _ => exact hraises
       | error _ => exact hexpected)

/-- Nothing but readings, of which one is at fault. -/
theorem emitted_of_readings (h : ∀ e ∈ es, Reading e)
    (hfails : ¬Closes adapter request startedAt startedTick report es) :
    (∀ e ∈ es, ¬InCall e) ∧ Emitted adapter request startedAt startedTick report es := by
  refine ⟨fun e he => (@Reading.raises _ adapter request _ (h e he)).1,
    .refused ?_ hfails fun e he => (h e he).raises.2.2⟩
  exact List.filterMap_eq_nil_iff.mpr fun e he =>
    (@Reading.raises _ adapter request _ (h e he)).2.1

theorem runs_emitAudit {outcome : Except Exn ModelInvocationRecord} (hhex : py.HexDigests)
    (hattempt : 1 ≤ attempt) (hshaped : report.Shaped)
    (h : (emitAudit adapter request attempt startedAt startedTick report).Runs es outcome) :
    (∀ e ∈ es, ¬InCall e) ∧ Emitted adapter request startedAt startedTick report es := by
  unfold emitAudit at h
  replace h := Prog.runs_bind.mp h
  rcases h with ⟨x, hclock, -⟩ | ⟨completedAt, before, es, hclock, h, rfl⟩
  · obtain ⟨answer, rfl, ⟨time, -, hok⟩ | ⟨-, hunexpected⟩⟩ :=
      @runs_validatedClockNow _ adapter request _ _ _ hclock
    · cases hok
    · refine emitted_of_readings (by simp [Reading]) fun hcloses => hunexpected ?_
      exact hcloses.expected _ (List.mem_singleton_self _)
  obtain ⟨answer, rfl, ⟨_, rfl, hok⟩ | ⟨⟨_, herror⟩, -⟩⟩ :=
    @runs_validatedClockNow _ adapter request _ _ _ hclock
  swap
  · cases herror
  obtain rfl := Except.ok.inj hok
  replace h := Prog.runs_invoke_bind.mp h
  rcases h with ⟨x, rfl, -⟩ | ⟨tick, es, rfl, h⟩
  · refine emitted_of_readings (by simp [Reading]) fun hcloses => ?_
    exact hcloses.expected _ (List.mem_cons_of_mem _ (List.mem_singleton_self _))
  change Option ℚ at tick
  cases hlatency : latencyMs startedTick tick with
  | none =>
      rw [hlatency] at h
      obtain ⟨rfl, -⟩ := h
      exact emitted_of_readings (by simp [Reading]) fun hcloses =>
        hcloses.latency tick (List.mem_singleton_self _) hlatency
  | some latency =>
      rw [hlatency] at h
      replace h := Prog.runs_invoke_bind.mp h
      rcases h with ⟨x, rfl, -⟩ | ⟨monthly, es, rfl, h⟩
      · refine emitted_of_readings (by simp [Reading]) fun hcloses => ?_
        exact hcloses.expected ⟨(attempt, .monthlyCostUsd), .error x⟩ (by simp)
      change Number at monthly
      replace h := Prog.runs_done_bind.mp h
      rcases h with ⟨x, hrecord, rfl, -⟩ | ⟨record, hrecord, h⟩
      · refine emitted_of_readings (by simp [Reading]) fun hcloses => ?_
        have htimes := hcloses.clock completedAt (List.mem_singleton_self _)
        have hbudget : budgetStatus report.errorCode monthly ≠ none := by
          intro hnone
          obtain ⟨rfl, hdisabled, hstop⟩ := budgetStatus_eq_none.mp hnone
          have hnan := hcloses.budget ⟨⟨(attempt, .monthlyCostUsd), .ok .nan⟩, by simp, rfl⟩
          exact hnan.elim hdisabled hstop
        obtain ⟨record, hrecorded⟩ := @exists_recordOf _ _ _ attempt _ _ _ _ _ hhex hattempt hshaped
          (latencyMs_nonneg hlatency) hcloses.fits hcloses.reported htimes hbudget
        cases hrecorded.symm.trans hrecord
      · obtain ⟨⟨hfits, hreport, htimes, hbudget⟩, hcost, hcalls⟩ := fits_of_recordOf hrecord
        obtain ⟨answer, rfl⟩ : ∃ answer, es = [⟨(attempt, .record record), answer⟩] := by
          replace h := Prog.runs_invoke_bind.mp h
          rcases h with ⟨x, rfl, -⟩ | ⟨u, _, rfl, rfl, -⟩
          · exact ⟨.error x, rfl⟩
          · exact ⟨.ok u, rfl⟩
        refine ⟨by simp [InCall], .recorded record rfl hcost hcalls ⟨le_rfl, le_rfl⟩
          ⟨hfits, hreport, ?_, ?_, ?_, ?_⟩⟩
        · intro e he
          simp only [List.singleton_append, List.mem_cons, List.not_mem_nil, or_false] at he
          rcases he with rfl | rfl | rfl | rfl
          · exact Option.some_ne_none _
          · exact trivial
          · exact trivial
          · cases answer <;> exact trivial
        · intro time htime
          obtain rfl := List.mem_singleton.mp htime
          exact htimes
        · intro tick' htick
          obtain rfl := List.mem_singleton.mp htick
          rw [hlatency]
          exact Option.some_ne_none _
        · rintro ⟨e, he, hnan⟩
          simp only [List.singleton_append, List.mem_cons, List.not_mem_nil, or_false] at he
          by_contra hnot
          rw [not_or] at hnot
          refine hbudget (budgetStatus_eq_none.mpr ⟨?_, hnot⟩)
          rcases he with rfl | rfl | rfl | rfl
          · cases hnan
          · cases hnan
          · cases monthly with
            | nan => rfl
            | finite _ => cases hnan
            | infinite _ => cases hnan
          · cases hnan

end Closing
/-! ## A logical call -/

section LogicalCall
variable {py : Stdlib} {adapter : Adapter} {request : TokenizedModelRequest py} {attempt : ℕ}
  {startedAt : Datetime} {startedTick : Option ℚ} {report : Report} {before after : List Event}

/-- The answers of a call that settles can be written. -/
def Encodable (adapter : Adapter) (request : TokenizedModelRequest py) (es : List Event) : Prop :=
  (∃ e ∈ es, isSettled e) → ∀ output ∈ outputs adapter request es,
    adapter.canEncode output = true

/-- The readings before a call. -/
def opening (attempt : ℕ) (startedAt : Datetime) (startedTick : Option ℚ) : List Event :=
  [⟨(attempt, .clock), .ok (some startedAt)⟩, ⟨(attempt, .monotonic), .ok startedTick⟩]

/-- What a run shows is shown by its call and by its end. -/
structure Shows (adapter : Adapter) (request : TokenizedModelRequest py) (attempt : ℕ)
    (startedAt : Datetime) (startedTick : Option ℚ) (before after es : List Event) : Prop where
  eq : es = opening attempt startedAt startedTick ++ (before ++ after)
  posts : posts es = posts before
  records : records es = records after
  charges : charges es = charges before
  prices : prices adapter es = prices adapter before
  ambiguous : ambiguous es = ambiguous before
  outputs : outputs adapter request es = outputs adapter request before
  times : times es = startedAt :: times after
  ticks : ticks es = startedTick :: ticks after
  settled : (∃ e ∈ es, isSettled e) ↔ ∃ e ∈ before, isSettled e
  nan : (∃ e ∈ es, isNan e) ↔ ∃ e ∈ after, isNan e

theorem countP_eq_zero {p : Event → Bool} {es : List Event} (h : ∀ e ∈ es, p e = false) :
    es.countP p = 0 := by
  refine List.countP_eq_zero.mpr fun e he => ?_
  rw [h e he]
  exact Bool.false_ne_true

theorem not_exists_of_forall {p : Event → Bool} {es : List Event} (h : ∀ e ∈ es, p e = false) :
    ¬∃ e ∈ es, p e = true := by
  rintro ⟨e, he, htrue⟩
  rw [h e he] at htrue
  cases htrue

theorem shows_of_inCall (hbefore : ∀ e ∈ before, InCall e) (hafter : ∀ e ∈ after, ¬InCall e) :
    Shows adapter request attempt startedAt startedTick before after
      (opening attempt startedAt startedTick ++ (before ++ after)) := by
  have hfree := fun e he => @free_of_not_inCall _ adapter request _
    (hafter e he)
  have hsilent := fun e he => (hbefore e he).silent
  constructor
  case eq => rfl
  case posts =>
    have hzero : posts after = 0 := countP_eq_zero fun e he => (hfree e he).1
    rw [posts_append, posts_append, hzero]
    exact Nat.zero_add _
  case records =>
    have hnil : records before = [] := List.filterMap_eq_nil_iff.mpr fun e he => (hsilent e he).1
    rw [records_append, records_append, hnil]
    rfl
  case charges =>
    have hnil : charges after = [] := List.filterMap_eq_nil_iff.mpr fun e he => (hfree e he).2.1
    rw [charges_append, charges_append, hnil, List.append_nil]
    rfl
  case prices =>
    have hnil : prices adapter after = [] :=
      List.filterMap_eq_nil_iff.mpr fun e he => (hfree e he).2.2.1
    rw [prices_append, prices_append, hnil, List.append_nil]
    rfl
  case ambiguous =>
    have hzero : ambiguous after = 0 := countP_eq_zero fun e he => (hfree e he).2.2.2.1
    rw [ambiguous_append, ambiguous_append, hzero]
    exact Nat.zero_add _
  case outputs =>
    have hnil : outputs adapter request after = [] :=
      List.filterMap_eq_nil_iff.mpr fun e he => (hfree e he).2.2.2.2.2
    rw [outputs_append, outputs_append, hnil, List.append_nil]
    rfl
  case times =>
    have hnil : times before = [] := List.filterMap_eq_nil_iff.mpr fun e he => (hsilent e he).2.1
    rw [times_append, times_append, hnil]
    rfl
  case ticks =>
    have hnil : ticks before = [] := List.filterMap_eq_nil_iff.mpr fun e he => (hsilent e he).2.2.1
    rw [ticks_append, ticks_append, hnil]
    rfl
  case settled =>
    have hnone := not_exists_of_forall fun e he => (hfree e he).2.2.2.2.1
    simp only [List.mem_append, or_and_right, exists_or, or_iff_left hnone]
    exact or_iff_right (by simp [opening, isSettled])
  case nan =>
    have hnone := not_exists_of_forall fun e he => (hsilent e he).2.2.2
    simp only [List.mem_append, or_and_right, exists_or, or_iff_right hnone]
    exact or_iff_right (by simp [opening, isNan])

theorem pairwise_of_length_le_one {α : Type} {R : α → α → Prop} {l : List α}
    (h : l.length ≤ 1) : l.Pairwise R := by
  rcases l with _ | ⟨a, _ | ⟨_, _⟩⟩
  · exact .nil
  · exact List.pairwise_singleton R a
  · simp at h

/-- A run whose call is charged is recorded exactly if it is sound. -/
theorem recorded_iff_sound {es : List Event} {charge : CostSnapshot}
    (hshows : Shows adapter request attempt startedAt startedTick before after es)
    (hcharged : charges before = [charge]) (hcost : report.cost = charge)
    (hcalls : report.networkCalls = posts before)
    (hfits : Fair adapter request before ∧ Encodable adapter request before ↔ report.Fits adapter)
    (hstops : (∃ e ∈ before, Raises Stops e) ↔ report.errorCode = some "network_disabled" ∨
      report.errorCode = some "budget_hard_stop")
    (hemitted : Emitted adapter request startedAt startedTick report after) :
    Recorded es ↔ Sound adapter request es := by
  subst hcost
  have hfair : Fair adapter request es ↔ (∀ e ∈ opening attempt startedAt startedTick ++ after,
      Expected adapter request e) ∧ Fair adapter request before := by
    rw [Fair, Fair, hshows.prices, hshows.ambiguous, hshows.eq]
    simp only [List.forall_mem_append]
    tauto
  have hopening : ∀ e ∈ opening attempt startedAt startedTick,
      Expected adapter request e ∧ ¬Raises Stops e := by
    rw [opening, List.forall_mem_cons, List.forall_mem_singleton]
    exact ⟨⟨Option.some_ne_none _, not_false⟩, trivial, not_false⟩
  have hencodable : Encodable adapter request es ↔ Encodable adapter request before := by
    rw [Encodable, Encodable, hshows.settled, hshows.outputs]
  constructor
  · rintro ⟨record, charge, hrecords, -, -, -⟩
    rw [hshows.records] at hrecords
    cases hemitted with
    | refused unrecorded fails raises =>
        rw [unrecorded] at hrecords
        cases hrecords
    | recorded record recorded cost calls once closes =>
        obtain ⟨hbefore, hencode⟩ := hfits.mpr closes.reported
        have hall := hfair.mpr ⟨fun e he => (List.mem_append.mp he).elim
          (fun he => (hopening e he).1) (closes.expected e), hbefore⟩
        refine ⟨closes.fits, hall.1, hall.2, hencodable.mpr hencode, fun hnan => ?_, ?_, ?_⟩
        · obtain ⟨e, he, hraises⟩ := hstops.mpr (closes.budget (hshows.nan.mp hnan))
          refine ⟨e, ?_, hraises⟩
          rw [hshows.eq]
          exact List.mem_append_right _ (List.mem_append_left _ he)
        · rw [hshows.times, List.pairwise_cons]
          exact ⟨closes.clock, pairwise_of_length_le_one once.1⟩
        · rw [hshows.ticks, List.pairwise_cons]
          exact ⟨closes.latency, pairwise_of_length_le_one once.2⟩
  · intro hsound
    have hall := hfair.mp ⟨hsound.expected, hsound.surcharge⟩
    cases hemitted with
    | recorded record recorded cost calls once closes =>
        refine ⟨record, report.cost, hshows.records.trans recorded, hshows.charges.trans hcharged,
          cost, ?_⟩
        rw [calls, hshows.posts, hcalls]
    | refused unrecorded fails raises =>
        exfalso
        refine fails ⟨hsound.fits, hfits.mp ⟨hall.2, hencodable.mp hsound.encodable⟩,
          fun e he => hall.1 e (List.mem_append_right _ he), ?_, ?_, fun hnan => ?_⟩
        · have hclock := hsound.clock
          rw [hshows.times, List.pairwise_cons] at hclock
          exact hclock.1
        · have hlatency := hsound.latency
          rw [hshows.ticks, List.pairwise_cons] at hlatency
          exact hlatency.1
        · obtain ⟨e, he, hraises⟩ := hsound.budget (hshows.nan.mpr hnan)
          rw [hshows.eq] at he
          rcases List.mem_append.mp he with he | he
          · exact absurd hraises (hopening e he).2
          rcases List.mem_append.mp he with he | he
          · exact hstops.mp ⟨e, he, hraises⟩
          · exact absurd (hall.1 e (List.mem_append_right _ he)) (raises e he hraises)

/-- What has been charged is on the report, which fits exactly if the call was fair. -/
theorem recorded_iff_of_spent {es : List Event} {outcome : Except Exn CallResult}
    (hshows : Shows adapter request attempt startedAt startedTick before after es)
    (hspent : Spent adapter request before (Fair adapter request before) outcome)
    (hok : ∀ result, outcome = .ok result →
      Emitted adapter request startedAt startedTick (result.report adapter) after)
    (herror : ∀ failure, outcome = .error (.gateway failure) →
      Emitted adapter request startedAt startedTick failure.report after) :
    Recorded es ↔ Sound adapter request es := by
  cases hspent with
  | settled result charged calls fair_iff going settles identified positive priced output =>
      refine recorded_iff_sound hshows charged rfl calls ?_ ?_ (hok result rfl)
      · have hencodable : Encodable adapter request before ↔
            adapter.canEncode result.output = true := by
          rw [Encodable, output, List.forall_mem_singleton]
          exact ⟨fun h => h settles, fun h _ => h⟩
        rw [fair_iff, hencodable]
        constructor
        · rintro ⟨hlength, hencode⟩
          refine ⟨within_model, identified, ⟨⟨_, dif_pos ⟨positive, by decide⟩⟩, ?_, ?_⟩, ?_, ?_⟩
          · intro catalog hcatalog
            obtain rfl := Option.some.inj hcatalog
            exact ⟨priced, hlength⟩
          · exact fun _ => Option.some_ne_none _
          · intro code hcode
            cases hcode
          · intro taken htaken
            obtain rfl := Option.some.inj htaken
            exact hencode
        · exact fun h => ⟨(h.cost.catalog _ rfl).2, h.output _ rfl⟩
      · exact iff_of_false going (by simp [CallResult.report])
  | consumed failure charged calls fair_iff stops unsettled =>
      refine recorded_iff_sound hshows charged rfl calls ?_ ?_ (herror failure rfl)
      · have hencodable : Encodable adapter request before := fun h => (unsettled h).elim
        rw [fair_iff, and_iff_left hencodable]
        constructor
        · rintro ⟨hfailure, hcost⟩
          refine ⟨hfailure.observedModel, hfailure.responseId, hcost, ?_, ?_⟩
          · intro code hcode
            obtain rfl := Option.some.inj hcode
            exact hfailure.code
          · intro taken htaken
            cases htaken
        · exact fun h => ⟨⟨h.code _ rfl, h.observedModel, h.responseId⟩, h.cost⟩
      · rw [stops]
        simp [Stops, Failure.report]
  | lost x charged unfair =>
      refine iff_of_false ?_ fun hsound => unfair ⟨fun e he => hsound.expected e ?_, ?_⟩
      · rintro ⟨record, charge, -, hcharges, -⟩
        rw [hshows.charges, charged] at hcharges
        cases hcharges
      · rw [hshows.eq]
        exact List.mem_append_right _ (List.mem_append_left _ he)
      · rw [← hshows.prices, ← hshows.ambiguous]
        exact hsound.surcharge

/-- A program that makes no call after the record. -/
theorem runs_of_emitAudit {α : Type} {f : ModelInvocationRecord → Gateway α}
    {outcome : Except Exn α}
    (h : (emitAudit adapter request attempt startedAt startedTick report >>= f).Runs after
      outcome) (hf : ∀ record es o, (f record).Runs es o → es = []) :
    ∃ o, (emitAudit adapter request attempt startedAt startedTick report).Runs after o := by
  replace h := Prog.runs_bind.mp h
  rcases h with ⟨x, hemit, -⟩ | ⟨record, first, rest, hemit, h, rfl⟩
  · exact ⟨_, hemit⟩
  · obtain rfl := hf record rest _ h
    rw [List.append_nil]
    exact ⟨_, hemit⟩

/-- A logical call that has made an attempt is recorded exactly if it is sound. -/
theorem runs_invokeLogicalCall {thinking : Bool} {priorOutput : Option Json} {es : List Event}
    {outcome : Except Exn (CallResult × ModelInvocationRecord)} (hhex : py.HexDigests)
    (hattempt : 1 ≤ attempt)
    (h : (invokeLogicalCall adapter request attempt thinking priorOutput).Runs es outcome)
    (hposts : 1 ≤ posts es) : Recorded es ↔ Sound adapter request es := by
  unfold invokeLogicalCall at h
  replace h := Prog.runs_bind.mp h
  rcases h with ⟨x, hclock, -⟩ | ⟨startedAt, first, es, hclock, h, rfl⟩
  · obtain ⟨answer, rfl, -⟩ :=
      @runs_validatedClockNow _ adapter request _ _ _ hclock
    exact (Nat.not_succ_le_zero 0 hposts).elim
  obtain ⟨answer, rfl, ⟨_, rfl, hok⟩ | ⟨⟨_, herror⟩, -⟩⟩ :=
    @runs_validatedClockNow _ adapter request _ _ _ hclock
  swap
  · cases herror
  obtain rfl := Except.ok.inj hok
  replace h := Prog.runs_invoke_bind.mp h
  rcases h with ⟨x, rfl, -⟩ | ⟨startedTick, es, rfl, h⟩
  · exact (Nat.not_succ_le_zero 0 hposts).elim
  replace h := Prog.runs_attempt_bind.mp h
  obtain ⟨called, before, after, hcall, h, rfl⟩ := h
  obtain ⟨hafter, hok, herror⟩ : (∀ e ∈ after, ¬InCall e) ∧
      (∀ result, called = .ok result →
        Emitted adapter request startedAt startedTick (result.report adapter) after) ∧
      ∀ failure, called = .error (.gateway failure) →
        Emitted adapter request startedAt startedTick failure.report after := by
    cases called with
    | ok result =>
        dsimp only at h
        obtain ⟨o, hemit⟩ := runs_of_emitAudit h fun _ _ _ h => h.1
        obtain ⟨hafter, hemitted⟩ := runs_emitAudit hhex hattempt
          (.inl ⟨rfl, rfl, Option.some_ne_none _⟩) hemit
        refine ⟨hafter, fun _ hresult => ?_, fun _ h => by cases h⟩
        obtain rfl := Except.ok.inj hresult
        exact hemitted
    | error x =>
        cases x with
        | gateway failure =>
            dsimp only at h
            obtain ⟨o, hemit⟩ := runs_of_emitAudit h fun _ _ _ h => h.1
            obtain ⟨hafter, hemitted⟩ := runs_emitAudit hhex hattempt
              (.inr ⟨rfl, Option.some_ne_none _, rfl⟩) hemit
            refine ⟨hafter, fun _ h => (by cases h), fun _ hfailure => ?_⟩
            obtain rfl := Exn.gateway.inj (Except.error.inj hfailure)
            exact hemitted
        | transport _ | arithmetic | other =>
            obtain ⟨rfl, -⟩ := h
            exact ⟨by simp, fun _ h => (by cases h), fun _ h => by cases h⟩
  have hcalled : 1 ≤ posts before := by
    have hzero : posts after = 0 := countP_eq_zero fun e he =>
      (@free_of_not_inCall _ adapter request _ (hafter e he)).1
    have hall : posts (before ++ after) = posts before := by
      rw [posts_append, hzero, Nat.add_zero]
    exact hall ▸ hposts
  obtain ⟨hinCall, hspent⟩ := runs_call hcall (.inl hcalled)
  exact recorded_iff_of_spent (shows_of_inCall hinCall hafter) hspent hok herror

end LogicalCall
/-! ## Two runs -/

/-- An environment in which every attempt gets the same answer. -/
def answering (response : Except Exn Response) : (c : ℕ × Op) → Except Exn c.2.Answer
  | (_, .clock) => .ok (some newYear)
  | (_, .monotonic) => .ok (some 0)
  | (_, .monthlyCostUsd) => .ok (.finite ⟨false, 0, 0⟩)
  | (_, .calculate _ _) => .ok (.finite ⟨false, 0, 0⟩)
  | (_, .count _) => .ok (show ℕ from 1)
  | (_, .reserve reservationId amount catalog counter) =>
      .ok ⟨reservationId, amount, catalog, counter, none⟩
  | (_, .post _) => response
  | (_, .consume reservation) => .ok ⟨true, some (.finite reservation.amountUsd),
      some reservation.priceCatalogVersion⟩
  | (_, .ensureCanAttempt _) | (_, .retryDelay _) | (_, .settle ..) | (_, .release _)
  | (_, .record _) => .ok ()

theorem sampleContext_prec_pos : 0 < 28 := by decide
theorem sampleContext_emin_le : (-999999 : ℤ) ≤ 999999 := by decide

/-- An adapter to which every response reads as one answer of a quiet day. -/
def sampleAdapter : Adapter where
  networkEnabled := true
  tokenCounterVersion := "counter-1"
  catalogVersion := "catalog-1"
  schemaOf _ := .obj []
  responseJson _ := .ok (.obj [("model", .str model),
    ("choices", .arr [.obj [("finish_reason", .str "stop"),
      ("message", .obj [("content", .str "answer")])]]),
    ("usage", .obj [("prompt_tokens", .int 1), ("completion_tokens", .int 1),
      ("total_tokens", .int 2)])])
  loads _ := .ok (.obj [("site_id", .str "s"), ("observation_id", .str "x"),
    ("evidence_refs", Json.ofStrs ["e"]), ("confidence", .int 1)])
  isValid _ _ := .ok true
  recursionExceeded _ := false
  canEncode _ := true
  float _ := none
  context := ⟨28, -999999, 999999, sampleContext_prec_pos, sampleContext_emin_le⟩

def sampleFields : RequestFields where
  requestId := "request-1"
  siteId := "s"
  purpose := "summary"
  agentKind := .communication
  subjectRef := "x"
  evidenceRefs := ["e"]
  promptVersion := "prompt-1"
  tokenizedContext := "a quiet day"
  tokenizationReceiptId := "receipt-1"
  tokenizerVersion := "tokenizer-1"
  mappingDigest := "0000000000000000000000000000000000000000000000000000000000000000"
  complexMultiEntity := false

theorem sampleFields_required : ∀ value ∈ [sampleFields.requestId, sampleFields.siteId,
    sampleFields.purpose, sampleFields.subjectRef, sampleFields.promptVersion,
    sampleFields.tokenizedContext, sampleFields.tokenizationReceiptId,
    sampleFields.tokenizerVersion], value ≠ "" := by decide

theorem sampleFields_evidence :
    sampleFields.evidenceRefs ≠ [] ∧ sampleFields.evidenceRefs.Nodup := by decide

theorem sampleFields_digest : isDigest sampleFields.mappingDigest = true := by decide +kernel

theorem sampleFields_clean :
    containsObviousPii (.sample [] []) sampleFields.tokenizedContext.toList = false := by
  decide +kernel

def sampleRequest : TokenizedModelRequest (.sample [] []) :=
  ⟨sampleFields, sampleFields_required, sampleFields_evidence, sampleFields_digest,
    sampleFields_clean⟩

/-! ## A request -/

section Requests
variable {py : Stdlib} {adapter : Adapter} {request : TokenizedModelRequest py} {attempt : ℕ}
  {reservation : BudgetReservation} {worst : Decimal} {events : List Event}

/-- The calls serve the logical call `attempt`. -/
def Serves (attempt : ℕ) (c : ℕ × Op) : Prop := c.1 = attempt

theorem serves_ask {op : Op} : (ask attempt op).Only (Serves attempt) := Prog.only_invoke rfl

theorem serves_ofExcept {α : Type} {x : Except Exn α} :
    (ofExcept x : Gateway α).Only (Serves attempt) := trivial

theorem serves_tryAttempts {payload : Json} {remaining : ℕ} {progress : Progress} :
    (tryAttempts attempt reservation payload remaining progress).Only (Serves attempt) := by
  induction remaining generalizing progress with
  | zero => trivial
  | succ remaining ih =>
      refine serves_ask.attempt.bind fun answer => ?_
      cases answer with
      | error e => trivial
      | ok _ =>
          refine serves_ask.attempt.bind fun answer => ?_
          cases verdict (progress.networkCalls + 1) answer with
          | accepted response => trivial
          | refused e => trivial
          | retried ambiguous message errorCode =>
              dsimp only
              split
              · trivial
              · refine serves_ask.attempt.bind fun answer => ?_
                cases answer with
                | error e => trivial
                | ok _ => exact ih

theorem serves_settleResponse {progress : Progress} {response : Response} :
    (settleResponse adapter request attempt reservation worst progress response).Only
      (Serves attempt) := by
  refine serves_ofExcept.bind fun parsed => ?_
  cases parsed.usage with
  | unknown => trivial
  | known inputTokens outputTokens =>
      refine serves_ask.attempt.bind fun answer => serves_ofExcept.bind fun price =>
        serves_ofExcept.bind fun amount => serves_ask.bind fun _ => trivial

theorem serves_spend {payload : Json} :
    (spend adapter request attempt reservation worst payload).Only (Serves attempt) := by
  refine serves_tryAttempts.bind fun tried =>
    (serves_ofExcept.bind fun response => serves_settleResponse).attempt.bind fun settled => ?_
  cases settled with
  | ok result => trivial
  | error e =>
      cases e with
      | gateway failure =>
          dsimp only
          split
          · exact serves_ask.bind fun _ => trivial
          · exact serves_ask.bind fun _ => trivial
      | transport _ | arithmetic | other => trivial

theorem serves_call {thinking : Bool} {priorOutput : Option Json} :
    (call adapter request attempt thinking priorOutput).Only (Serves attempt) := by
  unfold call
  split
  · trivial
  refine serves_ask.bind fun countedInput => ?_
  split
  · trivial
  exact serves_ask.attempt.bind fun answer => serves_ofExcept.bind fun worst =>
    serves_ofExcept.bind fun amount => serves_ask.bind fun reservation => serves_spend

theorem serves_validatedClockNow : (validatedClockNow attempt).Only (Serves attempt) := by
  refine serves_ask.bind fun time => ?_
  change Option Datetime at time
  cases time <;> trivial

theorem serves_emitAudit {startedAt : Datetime} {startedTick : Option ℚ} {report : Report} :
    (emitAudit adapter request attempt startedAt startedTick report).Only (Serves attempt) :=
  serves_validatedClockNow.bind fun _ => serves_ask.bind fun _ =>
    serves_ofExcept.bind fun _ => serves_ask.bind fun _ =>
      serves_ofExcept.bind fun _ => serves_ask.bind fun _ => trivial

theorem serves_invokeLogicalCall {thinking : Bool} {priorOutput : Option Json} :
    (invokeLogicalCall adapter request attempt thinking priorOutput).Only (Serves attempt) := by
  refine serves_validatedClockNow.bind fun startedAt => serves_ask.bind fun startedTick =>
    serves_call.attempt.bind fun called => ?_
  cases called with
  | ok result => exact serves_emitAudit.bind fun _ => trivial
  | error e =>
      cases e with
      | gateway failure => exact serves_emitAudit.bind fun _ => trivial
      | transport _ | arithmetic | other => trivial

/-- The events of a logical call that may not have been begun. -/
def Logical (adapter : Adapter) (request : TokenizedModelRequest py) (attempt : ℕ)
    (es : List Event) : Prop :=
  es = [] ∨ ∃ thinking priorOutput outcome,
    (invokeLogicalCall adapter request attempt thinking priorOutput).Runs es outcome

/-- What a request asks for itself. -/
def Own (es : List Event) : Prop := ∀ e ∈ es, e.1.1 = 0 ∧ isPost e = false

theorem runs_combine {monthlyBefore : Number} {final : CallResult}
    {calls : List (CallResult × ModelInvocationRecord)} {outcome : Except Exn GatewayResult}
    (h : (combine adapter monthlyBefore final calls).Runs events outcome) : Own events := by
  unfold combine at h
  replace h := Prog.runs_done_bind.mp h
  rcases h with ⟨_, -, rfl, -⟩ | ⟨cost, -, h⟩
  · simp [Own]
  replace h := Prog.runs_invoke_bind.mp h
  rcases h with ⟨x, rfl, -⟩ | ⟨monthly, rest, rfl, h⟩
  · simp [Own, isPost]
  replace h := Prog.runs_done_bind.mp h
  rcases h with ⟨_, -, rfl, -⟩ | ⟨warning, -, rfl, -⟩
  · simp [Own, isPost]
  · simp [Own, isPost]

theorem runs_reviewCall {first : CallResult × ModelInvocationRecord}
    {outcome : Except Exn (CallResult × ModelInvocationRecord)}
    (h : (reviewCall adapter request first).Runs events outcome) :
    Logical adapter request 2 events := by
  unfold reviewCall at h
  replace h := Prog.runs_attempt_bind.mp h
  obtain ⟨reviewed, before, after, hreview, h, rfl⟩ := h
  suffices hempty : after = [] by
    rw [hempty, List.append_nil]
    exact .inr ⟨_, _, _, hreview⟩
  cases reviewed with
  | ok final => exact h.1
  | error e =>
      cases e with
      | gateway failure => exact h.1
      | transport _ | arithmetic | other => exact h.1

/-- A request is two logical calls at most. -/
theorem runs_invoke {outcome : Except Exn GatewayResult}
    (h : (invoke adapter request).Runs events outcome) :
    ∃ head first second tail, events = head ++ (first ++ (second ++ tail)) ∧ Own head ∧
      Own tail ∧ Logical adapter request 1 first ∧ Logical adapter request 2 second := by
  have hnone : Own ([] : List Event) := by simp [Own]
  unfold invoke at h
  replace h := Prog.runs_invoke_bind.mp h
  rcases h with ⟨x, rfl, -⟩ | ⟨monthlyBefore, rest, rfl, h⟩
  · exact ⟨[⟨(0, .monthlyCostUsd), .error x⟩], [], [], [], rfl, by simp [Own, isPost], hnone,
      .inl rfl, .inl rfl⟩
  refine ⟨[⟨(0, .monthlyCostUsd), .ok monthlyBefore⟩], ?_⟩
  have hhead : Own [⟨(0, .monthlyCostUsd), .ok monthlyBefore⟩] := by simp [Own, isPost]
  replace h := Prog.runs_bind.mp h
  rcases h with ⟨x, hfirst, -⟩ | ⟨called, first, rest, hfirst, h, rfl⟩
  · exact ⟨rest, [], [], by simp, hhead, hnone, .inr ⟨_, _, _, hfirst⟩, .inl rfl⟩
  by_cases hreview : needsReview adapter request called.1.output = true
  · rw [if_pos hreview] at h
    replace h := Prog.runs_bind.mp h
    rcases h with ⟨x, hsecond, -⟩ | ⟨final, second, tail, hsecond, h, rfl⟩
    · exact ⟨first, rest, [], by simp, hhead, hnone, .inr ⟨_, _, _, hfirst⟩,
        runs_reviewCall hsecond⟩
    · exact ⟨first, second, tail, rfl, hhead, runs_combine h, .inr ⟨_, _, _, hfirst⟩,
        runs_reviewCall hsecond⟩
  · rw [if_neg hreview] at h
    exact ⟨first, [], rest, rfl, hhead, runs_combine h, .inr ⟨_, _, _, hfirst⟩, .inl rfl⟩

theorem Logical.serves {es : List Event} (h : Logical adapter request attempt es) :
    ∀ e ∈ es, Serves attempt e.1 := by
  rcases h with rfl | ⟨thinking, priorOutput, outcome, h⟩
  · simp
  · exact serves_invokeLogicalCall.runs h

theorem ofCall_append {es es' : List Event} :
    ofCall attempt (es ++ es') = ofCall attempt es ++ ofCall attempt es' :=
  List.filter_append es es'

theorem ofCall_eq_self {es : List Event} (h : ∀ e ∈ es, Serves attempt e.1) :
    ofCall attempt es = es :=
  List.filter_eq_self.mpr fun e he => decide_eq_true (h e he)

theorem ofCall_eq_nil {es : List Event} {other : ℕ} (h : ∀ e ∈ es, Serves other e.1)
    (hother : other ≠ attempt) : ofCall attempt es = [] := by
  refine List.filter_eq_nil_iff.mpr fun e he => ?_
  rw [h e he, decide_eq_true_eq]
  exact hother

/-- Every logical call of a request that has made an attempt is recorded, once and with the cost
that was charged, exactly if its environment and its request are sound. -/
theorem invoke_recorded_iff (hhex : py.HexDigests) {outcome : Except Exn GatewayResult}
    (h : (invoke adapter request).Runs events outcome) (attempt : ℕ)
    (hposts : 1 ≤ posts (ofCall attempt events)) :
    Recorded (ofCall attempt events) ↔ Sound adapter request (ofCall attempt events) := by
  obtain ⟨head, first, second, tail, rfl, hhead, htail, hfirst, hsecond⟩ := runs_invoke h
  have hown : ∀ {es : List Event}, Own es → attempt ≠ 0 → ofCall attempt es = [] :=
    fun hes hne => ofCall_eq_nil (fun e he => (hes e he).1) hne.symm
  have hlogical : ∀ {k : ℕ} {es : List Event}, 1 ≤ k → Logical adapter request k es →
      1 ≤ posts es → (Recorded es ↔ Sound adapter request es) := by
    rintro k es hk (rfl | ⟨thinking, priorOutput, outcome, hes⟩) hposts
    · exact (Nat.not_succ_le_zero 0 hposts).elim
    · exact runs_invokeLogicalCall hhex hk hes hposts
  simp only [ofCall_append] at hposts ⊢
  by_cases hzero : attempt = 0
  · subst hzero
    have hunposted : ∀ {es : List Event}, Own es → posts (ofCall 0 es) = 0 := fun hes =>
      countP_eq_zero fun e he => (hes e (List.mem_filter.mp he).1).2
    rw [ofCall_eq_nil hfirst.serves one_ne_zero, ofCall_eq_nil hsecond.serves two_ne_zero,
      posts_append, hunposted hhead] at hposts
    rw [List.nil_append, List.nil_append, hunposted htail] at hposts
    exact (Nat.not_succ_le_zero 0 hposts).elim
  rw [hown hhead hzero, hown htail hzero, List.nil_append, List.append_nil] at hposts ⊢
  by_cases hone : attempt = 1
  · subst hone
    rw [ofCall_eq_self hfirst.serves, ofCall_eq_nil hsecond.serves (by decide),
      List.append_nil] at hposts ⊢
    exact hlogical le_rfl hfirst hposts
  rw [ofCall_eq_nil hfirst.serves (Ne.symm hone), List.nil_append] at hposts ⊢
  by_cases htwo : attempt = 2
  · subst htwo
    rw [ofCall_eq_self hsecond.serves] at hposts ⊢
    exact hlogical one_le_two hsecond hposts
  · rw [ofCall_eq_nil hsecond.serves (Ne.symm htwo)] at hposts
    exact (Nat.not_succ_le_zero 0 hposts).elim

/-- An outage is charged, and recorded. -/
theorem outage_recorded : 1 ≤ posts (ofCall 1 ((invoke sampleAdapter sampleRequest).trace
      (answering (.error (.transport true)))).1) ∧
    (Recorded (ofCall 1 ((invoke sampleAdapter sampleRequest).trace
        (answering (.error (.transport true)))).1) ↔
      Sound sampleAdapter sampleRequest (ofCall 1 ((invoke sampleAdapter sampleRequest).trace
        (answering (.error (.transport true)))).1)) := by
  have hposts : 1 ≤ posts (ofCall 1 ((invoke sampleAdapter sampleRequest).trace
      (answering (.error (.transport true)))).1) := by decide +kernel
  exact ⟨hposts, invoke_recorded_iff (Stdlib.sample_hexDigests [] (by simp))
    (Prog.runs_trace _ _) 1 hposts⟩

end Requests

/-! ## What a result accounts for -/

section Accounts
variable {py : Stdlib} {adapter : Adapter} {request : TokenizedModelRequest py} {attempt : ℕ}
  {es events : List Event} {record : ModelInvocationRecord}

/-- What the calls of a result have made of its run. -/
structure Accounts (adapter : Adapter) (request : TokenizedModelRequest py) (events : List Event)
    (result : GatewayResult) : Prop where
  invocations : result.invocations = records events
  networkCalls : result.networkCalls = posts events
  output : (outputs adapter request events).getLast? = some result.output
  cost : ∃ amounts, charges events = amounts.map adapter.costOf ∧
    combineCost adapter amounts = some result.cost

end Accounts
end EsanGbos.ModelGateway.DeepSeek
