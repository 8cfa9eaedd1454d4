import EsanGbos.AgentRuntime.InvocationStore

/-!
# Where the two repositories of invocation records agree

A record that is stored comes back equal: its times in UTC, and its amount as a `numeric`. The two
repositories part where a record does not fit the table, and where an identifier comes back under a
new key.

## Main definitions

* `AppendsAlike` — the condition under which a record is appended alike.
* `Simulates` — the table stands for the dictionaries.

## Main results

* `append_agrees_iff` — a run is answered alike exactly if all its records meet the condition.
-/
namespace EsanGbos.AgentRuntime.InvocationStore
open Lib

/-! ## The constructor's checks are those of the table -/

/-- The completion is not before the start, and comes with a latency. -/
def TimesChecked (startedAt : Datetime) (completedAt : Option Datetime) (latencyMs : Option ℤ) :
    Prop :=
  match completedAt with
  | none => latencyMs = none
  | some completedAt => startedAt.instant ≤ completedAt.instant ∧ latencyMs ≠ none

/-- What the constructor of a record has checked. -/
structure Checked (r : InvocationFields) : Prop where
  site : isSite r.siteId = true
  required : ∀ e ∈ [(r.invocationId, 256), (r.siteId, 140), (r.provider, 80),
    (r.requestedModel, 160), (r.promptVersion, 80), (r.outputSchemaVersion, 80),
    (r.policyVersion, 80), (r.tokenizerVersion, 80), (r.requestId, 256),
    (r.idempotencyKey, 256)], e.1 ≠ "" ∧ e.1.length ≤ e.2
  optional : ∀ e ∈ [(r.observedModel, 160), (r.responseId, 256), (r.priceCatalogVersion, 80)],
    ∀ text ∈ e.1, text ≠ "" ∧ text.length ≤ e.2
  times : TimesChecked r.startedAt r.completedAt r.latencyMs
  latency : ∀ latencyMs ∈ r.latencyMs, 0 ≤ latencyMs
  counts : ∀ count ∈ [r.networkCallCount, r.toolCallCount, r.externalSendCount], 0 ≤ count
  attempts : 1 ≤ r.attempt ∧ 0 ≤ r.retryCount
  retries : (r.networkCallCount = 0 → r.retryCount = 0) ∧
    (0 < r.networkCallCount → r.retryCount < r.networkCallCount)
  finish : ∀ code ∈ r.finishCode, isCode code = true
  error : ∀ code ∈ r.errorCode, code ∈ errorCodes
  digest : ∀ digest ∈ r.outputDigest, isDigest digest = true
  outcome : r.status = .succeeded ↔ r.errorCode = none

theorem requireText_yield {value name : String} {maximum : ℕ} {step : ForInStep PUnit} :
    (requireText value name maximum >>= fun _ => pure (.yield PUnit.unit)) = .ok step ↔
      (value ≠ "" ∧ value.length ≤ maximum) ∧ step = .yield PUnit.unit := by
  rw [Proc.bind_eq_ok, ← @requireText_eq_ok value name]
  constructor
  · rintro ⟨u, hu, hstep⟩
    exact ⟨hu, (Except.ok.inj hstep).symm⟩
  · rintro ⟨hu, rfl⟩
    exact ⟨(), hu, rfl⟩

theorem timesChecked_of_ok {startedAt : Datetime} {completedAt : Option Datetime}
    {latencyMs : Option ℤ} {lone early late : Raise} {rest : Except Raise Unit}
    (h : (match completedAt with
      | none => if latencyMs.isSome then throw lone else rest
      | some completedAt =>
          if completedAt.instant < startedAt.instant then throw early
          else if latencyMs.isNone then throw late else rest) = .ok ()) :
    TimesChecked startedAt completedAt latencyMs ∧ rest = .ok () := by
  cases completedAt with
  | none =>
      obtain ⟨hlatency, hrest⟩ := Proc.ite_throw_eq_ok.mp h
      exact ⟨Option.not_isSome_iff_eq_none.mp hlatency, hrest⟩
  | some completedAt =>
      simp only [Proc.ite_throw_eq_ok] at h
      obtain ⟨hstart, hlatency, hrest⟩ := h
      refine ⟨⟨not_lt.mp hstart, ?_⟩, hrest⟩
      rintro rfl
      exact hlatency rfl

theorem ok_of_timesChecked {startedAt : Datetime} {completedAt : Option Datetime}
    {latencyMs : Option ℤ} {lone early late : Raise} {rest : Except Raise Unit}
    (h : TimesChecked startedAt completedAt latencyMs) (hrest : rest = .ok ()) :
    (match completedAt with
      | none => if latencyMs.isSome then throw lone else rest
      | some completedAt =>
          if completedAt.instant < startedAt.instant then throw early
          else if latencyMs.isNone then throw late else rest) = .ok () := by
  cases completedAt with
  | none =>
      have hnone : latencyMs = none := h
      rw [hnone]
      exact hrest
  | some completedAt =>
      simp only [Proc.ite_throw_eq_ok]
      exact ⟨not_lt.mpr h.1, fun hnone => h.2 (Option.isNone_iff_eq_none.mp hnone), hrest⟩

/-- A text that may be missing is checked where it is there. -/
theorem requireText_optional {name : String} {value : Option String} {maximum : ℕ} :
    (match value with
      | some text => requireText text name maximum >>= fun _ => pure (.yield PUnit.unit)
      | _ => pure (.yield PUnit.unit) : Except Raise (ForInStep PUnit)) =
        .ok (.yield PUnit.unit) ↔ ∀ text ∈ value, text ≠ "" ∧ text.length ≤ maximum := by
  cases value with
  | none => exact iff_of_true rfl fun text htext => by cases htext
  | some text =>
      refine requireText_yield.trans ⟨fun h text' htext' => ?_, fun h => ⟨h text rfl, rfl⟩⟩
      obtain rfl := Option.some.inj htext'
      exact h.1

/-- The constructor has checked the fields, and that a known cost has its catalog. -/
theorem checked_and_priced {r : InvocationFields} (h : r.postInit = .ok ()) :
    Checked r ∧ (r.cost.isKnown = true → r.priceCatalogVersion ≠ none) := by
  unfold InvocationFields.postInit at h
  simp only [Proc.bind_unit_eq_ok, requireText_eq_ok, Proc.throw_bind_eq,
    Proc.ite_else_throw_eq_ok] at h
  obtain ⟨hid, hsite, hformat, htexts, hoptional, h⟩ := h
  have htexts : ∀ e ∈ [(r.provider, 80), (r.requestedModel, 160), (r.promptVersion, 80),
      (r.outputSchemaVersion, 80), (r.policyVersion, 80), (r.tokenizerVersion, 80),
      (r.requestId, 256), (r.idempotencyKey, 256)], e.1 ≠ "" ∧ e.1.length ≤ e.2 := by
    rw [Proc.forIn_eq_ok] at htexts
    · simpa only [List.forall_mem_cons, List.not_mem_nil, IsEmpty.forall_iff, implies_true,
        requireText_yield, and_true] using htexts
    · intro e hdone
      exact absurd (requireText_yield.mp hdone).2 (by simp)
  have hoptional : ∀ e ∈ [(r.observedModel, 160), (r.responseId, 256),
      (r.priceCatalogVersion, 80)], ∀ text ∈ e.1, text ≠ "" ∧ text.length ≤ e.2 := by
    rw [Proc.forIn_eq_ok] at hoptional
    · simp only [List.forall_mem_cons, List.not_mem_nil, IsEmpty.forall_iff, implies_true,
        and_true] at hoptional ⊢
      exact ⟨requireText_optional.mp hoptional.1, requireText_optional.mp hoptional.2.1,
        requireText_optional.mp hoptional.2.2⟩
    · rintro ⟨name, value, maximum⟩ hdone
      cases value with
      | none => cases hdone
      | some text => exact absurd (requireText_yield.mp hdone).2 (by simp)
  obtain ⟨htimes, h⟩ := timesChecked_of_ok h
  simp only [Proc.bind_unit_eq_ok, Proc.ite_throw_eq_ok, Option.any_eq_true] at h
  obtain ⟨hlatency, hcounts, hattempt, hretry, hzero, hless, hfinish, herror, h⟩ := h
  have houtcome : (r.status = .succeeded ↔ r.errorCode = none) ∧
      (¬∃ digest, r.outputDigest = some digest ∧ (!isDigest digest) = true) ∧
      ¬(r.cost.isKnown && r.priceCatalogVersion.isNone) = true := by
    by_cases hstatus : r.status = .succeeded
    · simp only [hstatus, if_true, Proc.ite_throw_eq_ok] at h
      exact ⟨iff_of_true hstatus (Option.not_isSome_iff_eq_none.mp h.1), h.2.2.1, h.2.2.2.1⟩
    · simp only [hstatus, if_false, Proc.ite_throw_eq_ok] at h
      refine ⟨iff_of_false hstatus fun hnone => h.1 ?_, h.2.1, h.2.2.1⟩
      rw [hnone]
      rfl
  refine ⟨?_, fun hknown hnone => houtcome.2.2 ?_⟩
  swap
  · rw [hknown, hnone]
    rfl
  constructor
  case site => exact hformat
  case required =>
    rw [List.forall_mem_cons, List.forall_mem_cons]
    exact ⟨hid, hsite, htexts⟩
  case optional => exact hoptional
  case times => exact htimes
  case latency =>
    intro latencyMs hmem
    by_contra hneg
    exact hlatency ⟨latencyMs, hmem, decide_eq_true (not_le.mp hneg)⟩
  case counts =>
    rw [Proc.forIn_eq_ok] at hcounts
    · simp only [Proc.ite_throw_eq_ok, not_lt, List.forall_mem_cons, List.not_mem_nil,
        IsEmpty.forall_iff, implies_true, and_true] at hcounts ⊢
      exact ⟨hcounts.1.1, hcounts.2.1.1, hcounts.2.2.1⟩
    · intro e hdone
      cases (Proc.ite_throw_eq_ok.mp hdone).2
  case attempts => exact ⟨not_lt.mp hattempt, not_lt.mp hretry⟩
  case retries => omega
  case finish =>
    intro code hmem
    by_contra hnot
    exact hfinish ⟨code, hmem, by simpa using hnot⟩
  case error =>
    intro code hmem
    by_contra hnot
    exact herror ⟨code, hmem, decide_eq_true hnot⟩
  case digest =>
    intro digest hmem
    by_contra hnot
    exact houtcome.2.1 ⟨digest, hmem, by simpa using hnot⟩
  case outcome => exact houtcome.1

theorem checked (r : ModelInvocationRecord) : Checked r.toInvocationFields :=
  (checked_and_priced r.checked).1

/-- A record whose fields meet the checks passes them. -/
theorem postInit_eq_ok {r : InvocationFields} (h : Checked r)
    (hdigest : r.status = .succeeded → r.outputDigest ≠ none)
    (hcost : r.cost.isKnown = true → r.priceCatalogVersion ≠ none) : r.postInit = .ok () := by
  have hrequired := h.required
  have hoptional := h.optional
  have hcounts := h.counts
  simp only [List.forall_mem_cons, List.not_mem_nil, IsEmpty.forall_iff, implies_true,
    and_true] at hrequired hoptional hcounts
  have hany : ∀ {α : Type} {value : Option α} {bad : α → Bool}, (∀ a ∈ value, bad a = false) →
      ¬value.any bad = true := by
    intro α value bad hgood hbad
    obtain ⟨a, ha, hbad⟩ := (Option.any_eq_true _ _).mp hbad
    rw [hgood a ha] at hbad
    cases hbad
  unfold InvocationFields.postInit
  simp only [Proc.bind_unit_eq_ok, requireText_eq_ok, Proc.throw_bind_eq,
    Proc.ite_else_throw_eq_ok]
  refine ⟨hrequired.1, hrequired.2.1, h.site, ?_, ?_, ?_⟩
  · rw [Proc.forIn_eq_ok]
    · simp only [List.forall_mem_cons, List.not_mem_nil, IsEmpty.forall_iff, implies_true,
        requireText_yield, and_true]
      exact hrequired.2.2
    · intro e hdone
      exact absurd (requireText_yield.mp hdone).2 (by simp)
  · rw [Proc.forIn_eq_ok]
    · simp only [List.forall_mem_cons, List.not_mem_nil, IsEmpty.forall_iff, implies_true,
        and_true]
      exact ⟨requireText_optional.mpr hoptional.1, requireText_optional.mpr hoptional.2.1,
        requireText_optional.mpr hoptional.2.2⟩
    · rintro ⟨name, value, maximum⟩ hdone
      cases value with
      | none => cases hdone
      | some text => exact absurd (requireText_yield.mp hdone).2 (by simp)
  · have htimes := h.times
    have hlatency : ¬r.latencyMs.any (fun latencyMs => decide (latencyMs < 0)) = true :=
      hany fun latencyMs hmem => decide_eq_false (not_lt.mpr (h.latency latencyMs hmem))
    have hfinish : ¬r.finishCode.any (fun code => !isCode code) = true :=
      hany fun code hmem => by rw [h.finish code hmem]; rfl
    have herror : ¬r.errorCode.any (fun code => decide (code ∉ errorCodes)) = true :=
      hany fun code hmem => decide_eq_false (not_not_intro (h.error code hmem))
    have hdigests : ¬r.outputDigest.any (fun digest => !isDigest digest) = true :=
      hany fun digest hmem => by rw [h.digest digest hmem]; rfl
    have hknown : ¬(r.cost.isKnown && r.priceCatalogVersion.isNone) = true := by
      intro hboth
      rw [Bool.and_eq_true] at hboth
      exact hcost hboth.1 (Option.isNone_iff_eq_none.mp hboth.2)
    refine ok_of_timesChecked h.times ?_
    simp only [Proc.bind_unit_eq_ok, Proc.ite_throw_eq_ok]
    refine ⟨hlatency, ?_, not_lt.mpr h.attempts.1, not_lt.mpr h.attempts.2, ?_, ?_, hfinish,
      herror, ?_⟩
    · rw [Proc.forIn_eq_ok]
      · simp only [Proc.ite_throw_eq_ok, not_lt, List.forall_mem_cons, List.not_mem_nil,
          IsEmpty.forall_iff, implies_true, and_true]
        exact ⟨⟨hcounts.1, rfl⟩, ⟨hcounts.2.1, rfl⟩, hcounts.2.2, rfl⟩
      · intro e hdone
        cases (Proc.ite_throw_eq_ok.mp hdone).2
    · exact fun hretry => hretry.2 (h.retries.1 hretry.1)
    · exact fun hretry => absurd (h.retries.2 hretry.1) (not_lt.mpr hretry.2)
    · by_cases hstatus : r.status = .succeeded
      · simp only [if_pos hstatus, Proc.ite_throw_eq_ok]
        refine ⟨?_, ?_, hdigests, hknown, rfl⟩
        · rw [h.outcome.mp hstatus]
          exact Bool.false_ne_true
        · exact fun hnone => hdigest hstatus (Option.isNone_iff_eq_none.mp hnone)
      · simp only [if_neg hstatus, Proc.ite_throw_eq_ok]
        refine ⟨?_, hdigests, hknown, rfl⟩
        exact fun hnone => hstatus (h.outcome.mpr (Option.isNone_iff_eq_none.mp hnone))

theorem lengthIn_of_required {value : String} {maximum : ℕ} (h : value ≠ "" ∧ value.length ≤ maximum) :
    lengthIn 1 maximum value = true := by
  have hpos : value.length ≠ 0 := fun hzero => h.1 (String.length_eq_zero_iff.mp hzero)
  simp only [lengthIn, Bool.and_eq_true, decide_eq_true_eq]
  omega

/-- The table takes every record. -/
theorem isAdmitted_rowOf (r : ModelInvocationRecord) :
    (rowOf r.toInvocationFields).isAdmitted r.siteId r.invocationId = true := by
  have h := checked r
  have hrequired : ∀ e ∈ [(r.invocationId, 256), (r.siteId, 140), (r.provider, 80),
      (r.requestedModel, 160), (r.promptVersion, 80), (r.outputSchemaVersion, 80),
      (r.policyVersion, 80), (r.tokenizerVersion, 80), (r.requestId, 256),
      (r.idempotencyKey, 256)], lengthIn 1 e.2 e.1 = true :=
    fun e he => lengthIn_of_required (h.required e he)
  have hoptional : ∀ e ∈ [(r.observedModel, 160), (r.responseId, 256),
      (r.priceCatalogVersion, 80)], e.1.all (lengthIn 1 e.2) = true := by
    intro e he
    rw [Option.all_eq_true]
    exact fun text htext => lengthIn_of_required (h.optional e he text htext)
  simp only [List.forall_mem_cons, List.not_mem_nil, IsEmpty.forall_iff, implies_true,
    and_true] at hrequired hoptional
  simp only [InvocationRow.isAdmitted, Bool.and_eq_true]
  refine ⟨⟨⟨⟨⟨?_, ?_⟩, ?_⟩, ?_⟩, ?_⟩, ?_⟩
  · simp [InvocationRow.textsAdmitted, rowOf, hrequired, hoptional, h.site, (h.required (r.siteId, 140) (by simp)).2]
  · have htimes := h.times
    have hlatency := h.latency
    simp only [InvocationRow.timesAdmitted, rowOf]
    cases hcompleted : r.completedAt with
    | none =>
        rw [hcompleted] at htimes
        have hnone : r.latencyMs = none := htimes
        rw [hnone]
        rfl
    | some completedAt =>
        rw [hcompleted] at htimes
        obtain ⟨hstart, hsome⟩ := htimes
        obtain ⟨latencyMs, hlatencyMs⟩ := Option.ne_none_iff_exists'.mp hsome
        simp [hlatencyMs, hstart, hlatency latencyMs hlatencyMs]
  · simp only [InvocationRow.tokensAdmitted, rowOf]
    cases r.tokenUsage <;> simp [tokenParams]
  · simp only [InvocationRow.costAdmitted, rowOf]
    cases hcost : r.cost with
    | unknown => rfl
    | known amount currency valid =>
        simp only [costParams, Option.bind_some]
        cases hnumeric : numericOf amount with
        | none => simp [valid.2, hoptional]
        | some n => simp [valid.2, hoptional, numericOf_negative hnumeric valid.1]
  · obtain ⟨hnetwork, htool, hsend⟩ : 0 ≤ r.networkCallCount ∧ 0 ≤ r.toolCallCount ∧
        0 ≤ r.externalSendCount := by simpa using h.counts
    have hretries : r.networkCallCount = 0 ∧ r.retryCount = 0 ∨
        0 < r.networkCallCount ∧ r.retryCount < r.networkCallCount := by
      have := h.retries
      omega
    simp only [InvocationRow.countsAdmitted, Bool.and_eq_true, Bool.or_eq_true, decide_eq_true_eq]
    exact ⟨⟨⟨⟨⟨hnetwork, htool⟩, hsend⟩, h.attempts.1⟩, h.attempts.2⟩, hretries⟩
  · have herror : r.errorCode.all (· ∈ errorCodes) = true := by
      rw [Option.all_eq_true]
      exact fun code hcode => decide_eq_true (h.error code hcode)
    have hfinish : r.finishCode.all isCode = true := (Option.all_eq_true _ _).mpr h.finish
    have hdigest : r.outputDigest.all isDigest = true := (Option.all_eq_true _ _).mpr h.digest
    have houtcome : (if r.status = .succeeded then r.errorCode.isNone
        else r.errorCode.isSome) = true := by
      by_cases hstatus : r.status = .succeeded
      · rw [if_pos hstatus, h.outcome.mp hstatus]
        rfl
      · rw [if_neg hstatus, Option.isSome_iff_ne_none]
        exact fun hnone => hstatus (h.outcome.mpr hnone)
    simp only [InvocationRow.outcomeAdmitted, Bool.and_eq_true]
    exact ⟨⟨⟨hfinish, herror⟩, hdigest⟩, houtcome⟩

/-! ## A record that comes back -/

/-- The times of the record have dates in UTC. -/
def isDated (r : InvocationFields) : Bool :=
  (Datetime.of? r.startedAt.instant 0).isSome &&
    r.completedAt.all fun completedAt => (Datetime.of? completedAt.instant 0).isSome

/-- The constructor reads times by their instants, and asks only whether a cost is known. -/
theorem postInit_congr {r : InvocationFields} {startedAt : Datetime} {completedAt : Option Datetime}
    {cost : CostMetadata} (hstart : startedAt.instant = r.startedAt.instant)
    (hcompleted : completedAt.map Datetime.instant = r.completedAt.map Datetime.instant)
    (hcost : cost.isKnown = r.cost.isKnown) :
    { r with startedAt, completedAt, cost }.postInit = r.postInit := by
  unfold InvocationFields.postInit
  simp only [hstart, hcost]
  cases h : r.completedAt with
  | none =>
      rw [h] at hcompleted
      obtain rfl : completedAt = none := by simpa using hcompleted
      rfl
  | some time =>
      rw [h] at hcompleted
      obtain ⟨time', rfl, htime⟩ := Option.map_eq_some_iff.mp hcompleted
      simp only [htime]

theorem datetimeOf_eq_ok {t : ℤ} (h : (Datetime.of? t 0).isSome = true) :
    ∃ d, datetimeOf t = .ok d ∧ d.instant = t := by
  obtain ⟨d, hd⟩ := Option.isSome_iff_exists.mp h
  rw [datetimeOf, hd]
  exact ⟨d, rfl, (Datetime.of?_eq_some hd).1⟩

/-- A cost comes back with the amount of the column. -/
theorem costOf_costParams {cost : CostMetadata}
    (h : (costParams cost).2.1.all (fun amount => (numericOf amount).isSome) = true) :
    ∃ cost', costOf (costParams cost).1 ((costParams cost).2.1.bind numericOf)
      (costParams cost).2.2 = .ok cost' ∧ cost.eq cost' = true ∧ cost'.isKnown = cost.isKnown := by
  cases cost with
  | unknown => exact ⟨.unknown, rfl, rfl, rfl⟩
  | known amount currency valid =>
      obtain ⟨n, hn⟩ := Option.isSome_iff_exists.mp (Option.all_some.symm.trans h)
      have hsign : n.negative = false ∨ n.coefficient = 0 := .inl (numericOf_negative hn valid.1)
      refine ⟨.known n currency ⟨hsign, valid.2⟩, ?_, ?_, rfl⟩
      · simp only [costParams, Option.bind_some, hn, costOf, dif_pos hsign, dif_pos valid.2]
      · simp [CostMetadata.eq, numericOf_eq hn]

theorem tokenUsageOf_tokenParams (usage : TokenUsageMetadata) :
    tokenUsageOf (tokenParams usage).1 (tokenParams usage).2.1 (tokenParams usage).2.2.1
      (tokenParams usage).2.2.2 = .ok usage := by
  cases usage with
  | unknown => rfl
  | known input output => exact if_pos rfl

theorem referencesOf_references (r : InvocationReferences) :
    referencesOf r.observationEventRefs r.evidenceRefs r.tokenizationReceiptRefs = .ok r := by
  have hmessage : ∀ name, ∀ values ∈ [r.observationEventRefs, r.evidenceRefs,
      r.tokenizationReceiptRefs], referencesMessage name values = none :=
    fun name values hvalues => referencesMessage_eq_none.mpr (r.valid values hvalues)
  have hobservation := hmessage "observation_event_refs" r.observationEventRefs (by simp)
  have hevidence := hmessage "evidence_refs" r.evidenceRefs (by simp)
  have hreceipt := hmessage "tokenization_receipt_refs" r.tokenizationReceiptRefs (by simp)
  unfold referencesOf
  split
  next message hsome =>
    cases hobservation.symm.trans hsome
  next message _ hsome =>
    cases hevidence.symm.trans hsome
  next message _ _ hsome =>
    cases hreceipt.symm.trans hsome
  next => rfl

/-- A stored record comes back equal. -/
theorem recordFromRow_rowOf {r : ModelInvocationRecord}
    (hfits : fitsColumns r.toInvocationFields = true) (hdated : isDated r.toInvocationFields = true) :
    ∃ r', recordFromRow (r.siteId, r.invocationId) (rowOf r.toInvocationFields) = .ok r' ∧
      r.eq r' = true := by
  simp only [isDated, Bool.and_eq_true] at hdated
  obtain ⟨startedAt, hstart, hstartInstant⟩ := datetimeOf_eq_ok hdated.1
  obtain ⟨completedAt, hcompleted, hcompletedInstant⟩ :
      ∃ completedAt, (r.completedAt.map Datetime.instant).mapM datetimeOf = .ok completedAt ∧
        completedAt.map Datetime.instant = r.completedAt.map Datetime.instant := by
    cases hc : r.completedAt with
    | none => exact ⟨none, rfl, rfl⟩
    | some time =>
        rw [hc] at hdated
        obtain ⟨d, hd, hinstant⟩ := datetimeOf_eq_ok hdated.2
        refine ⟨some d, ?_, ?_⟩
        · simp only [Option.map_some, Option.mapM_some, hd]
          rfl
        · rw [Option.map_some, Option.map_some, hinstant]
  simp only [fitsColumns, Bool.and_eq_true] at hfits
  obtain ⟨cost, hcost, hcostEq, hknown⟩ := costOf_costParams hfits.1.2
  have hchecked := postInit_congr (r := r.toInvocationFields) hstartInstant hcompletedInstant hknown
  rw [r.checked] at hchecked
  refine ⟨⟨_, hchecked⟩, ?_, ?_⟩
  · simp only [recordFromRow, rowOf, hstart, hcompleted, hcost, tokenUsageOf_tokenParams,
      referencesOf_references, Proc.ok_bind]
    split
    next => rfl
    next e herror =>
      cases hchecked.symm.trans herror
  · refine ModelInvocationRecord.eq_iff.mpr ⟨rfl, hstartInstant.symm, hcompletedInstant.symm, hcostEq⟩

/-- A record whose times have no date in UTC does not come back. -/
theorem isDated_of_recordFromRow {r : InvocationFields} {key : String × String}
    {r' : ModelInvocationRecord} (h : recordFromRow key (rowOf r) = .ok r') : isDated r = true := by
  have hof : ∀ {t : ℤ} {d : Datetime}, datetimeOf t = .ok d → (Datetime.of? t 0).isSome = true := by
    intro t d hd
    unfold datetimeOf at hd
    cases hdate : Datetime.of? t 0 with
    | some d => rfl
    | none =>
        rw [hdate] at hd
        cases hd
  obtain ⟨startedAt, hstart, h⟩ := Proc.bind_eq_ok.mp h
  obtain ⟨completedAt, hcompleted, -⟩ := Proc.bind_eq_ok.mp h
  simp only [isDated, Bool.and_eq_true]
  refine ⟨hof hstart, ?_⟩
  cases hc : r.completedAt with
  | none => rfl
  | some time =>
      simp only [rowOf, hc, Option.map_some, Option.mapM_some] at hcompleted
      obtain ⟨d, hd, -⟩ := Proc.bind_eq_ok.mp hcompleted
      exact hof hd

/-! ## The two repositories -/

/-- What the dictionaries and the table know of the records. -/
structure Simulates (s : Memory) (t : Tables) : Prop where
  records : ∀ key r, s.records.get? key = some r → key = (r.siteId, r.invocationId) ∧
    s.idempotency.get? (r.siteId, r.idempotencyKey) = some r ∧
      fitsColumns r.toInvocationFields = true ∧ isDated r.toInvocationFields = true
  idempotency : ∀ key r, s.idempotency.get? key = some r → key = (r.siteId, r.idempotencyKey) ∧
    s.records.get? (r.siteId, r.invocationId) = some r
  table : t = s.records.map fun r => rowOf r.toInvocationFields

/-- The record fits the table, and if its key is new then so is its identifier, and its times have
dates in UTC. -/
def AppendsAlike (s : Memory) (record : ModelInvocationRecord) : Prop :=
  fitsColumns record.toInvocationFields = true ∧
    (s.idempotency.get? (record.siteId, record.idempotencyKey) = none →
      s.records.get? (record.siteId, record.invocationId) = none ∧
        isDated record.toInvocationFields = true)

def AppendError.sameClass : AppendError → AppendError → Bool
  | .raise (.idempotencyConflict _), .raise (.idempotencyConflict _) => true
  | .raise (.valueError _), .raise (.valueError _) => true
  | a, b => a = b

/-- Equal records, or exceptions of one class. -/
def agree : Except AppendError ModelInvocationRecord →
    Except AppendError ModelInvocationRecord → Bool
  | .ok a, .ok b => a.eq b
  | .error e, .error e' => e.sameClass e'
  | _, _ => false

def Memory.stored (s : Memory) (record : ModelInvocationRecord) : Memory :=
  ⟨s.records.set (record.siteId, record.invocationId) record,
    s.idempotency.set (record.siteId, record.idempotencyKey) record⟩

theorem run_append_memory (s : Memory) (record : ModelInvocationRecord) :
    (Memory.append record).run s =
      match s.idempotency.get? (record.siteId, record.idempotencyKey) with
      | some existing =>
          (if existing.eq record then .ok existing else .error keyConflict, s)
      | none =>
          if (s.records.get? (record.siteId, record.invocationId)).isSome then
            (.error idConflict, s)
          else (.ok record, s.stored record) := by
  rw [Memory.append, Proc.run_get_bind]
  cases s.idempotency.get? (record.siteId, record.idempotencyKey) with
  | some existing =>
      dsimp only
      cases existing.eq record <;> rfl
  | none =>
      dsimp only
      split <;> rfl

theorem run_append_postgres (t : Tables) (record : ModelInvocationRecord)
    (hfits : fitsColumns record.toInvocationFields = true) :
    (Postgres.append record).run t =
      match t.items.find? (isConflict record) with
      | some (key, row) =>
          match recordFromRow key row with
          | .ok existing => (if existing.eq record then .ok existing else .error keyConflict, t)
          | .error e => (.error e, t)
      | none =>
          if (t.get? (record.siteId, record.invocationId)).isSome then (.error .integrityError, t)
          else match recordFromRow (record.siteId, record.invocationId)
              (rowOf record.toInvocationFields) with
            | .ok r => (.ok r, t.set (record.siteId, record.invocationId)
                (rowOf record.toInvocationFields))
            | .error e => (.error e, t) := by
  have hparams : recordParams record.toInvocationFields = .ok (rowOf record.toInvocationFields) :=
    if_pos hfits
  rw [Postgres.append, Proc.run_atomically, hparams, Proc.run_lift_bind]
  simp only [isAdmitted_rowOf record, Bool.not_true, Bool.false_eq_true, if_false,
    Proc.run_get_bind]
  cases t.items.find? (isConflict record) with
  | some e =>
      dsimp only
      rw [Proc.run_lift_bind]
      cases recordFromRow e.1 e.2 with
      | error error => rfl
      | ok existing =>
          dsimp only
          cases existing.eq record <;> rfl
  | none =>
      dsimp only
      cases (t.get? (record.siteId, record.invocationId)).isSome with
      | true => rfl
      | false =>
          simp only [Bool.false_eq_true, if_false, Proc.run_bind, Proc.run_set, Proc.run_lift]
          cases recordFromRow (record.siteId, record.invocationId)
            (rowOf record.toInvocationFields) <;> rfl

section Simulates
variable {s : Memory} {t : Tables} (h : Simulates s t) (record : ModelInvocationRecord)
include h

/-- The table finds the record that the dictionary finds. -/
theorem Simulates.find?_isConflict : t.items.find? (isConflict record) =
    (s.idempotency.get? (record.siteId, record.idempotencyKey)).map fun r =>
      ((r.siteId, r.invocationId), rowOf r.toInvocationFields) := by
  -- a row of the table that is in conflict is the one that the dictionary finds
  have hrow : ∀ e ∈ t.items, isConflict record e = true → ∃ r,
      s.idempotency.get? (record.siteId, record.idempotencyKey) = some r ∧
        e = ((r.siteId, r.invocationId), rowOf r.toInvocationFields) := by
    intro e he hconflict
    rw [h.table, Dict.items_map, List.mem_map] at he
    obtain ⟨⟨key, r⟩, hmem, rfl⟩ := he
    obtain ⟨hkey, hget, -⟩ := h.records key r (Dict.mem_items.mp hmem)
    simp only [isConflict, Bool.and_eq_true, decide_eq_true_eq] at hconflict
    have hsite : r.siteId = record.siteId := by rw [← hconflict.1, hkey]
    have hidempotency : r.idempotencyKey = record.idempotencyKey := hconflict.2
    rw [hsite, hidempotency] at hget
    exact ⟨r, hget, by rw [hkey]⟩
  cases hget : s.idempotency.get? (record.siteId, record.idempotencyKey) with
  | none =>
      rw [Option.map_none, List.find?_eq_none]
      intro e he hconflict
      obtain ⟨r, hr, -⟩ := hrow e he hconflict
      rw [hget] at hr
      cases hr
  | some r =>
      obtain ⟨hkey, hrecord⟩ := h.idempotency _ r hget
      have hmem : ((r.siteId, r.invocationId), rowOf r.toInvocationFields) ∈ t.items := by
        rw [h.table, Dict.items_map, List.mem_map]
        exact ⟨_, Dict.mem_items.mpr hrecord, rfl⟩
      have hconflict : isConflict record ((r.siteId, r.invocationId),
          rowOf r.toInvocationFields) = true := by
        obtain ⟨hsite, hidempotency⟩ := Prod.mk.inj hkey
        simp [isConflict, rowOf, hsite, hidempotency]
      obtain ⟨e, he⟩ := Option.isSome_iff_exists.mp (List.find?_isSome.mpr ⟨_, hmem, hconflict⟩)
      obtain ⟨r', hr', heq⟩ := hrow e (List.mem_of_find?_eq_some he) (List.find?_some he)
      obtain rfl := Option.some.inj (hget.symm.trans hr')
      rw [he, heq]
      rfl

theorem Simulates.get?_table (key : String × String) :
    (t.get? key).isSome = (s.records.get? key).isSome := by
  rw [h.table, Dict.get?_map, Option.isSome_map]

/-- A record with a new identifier and a new key. -/
theorem Simulates.stored (hfits : fitsColumns record.toInvocationFields = true)
    (hdated : isDated record.toInvocationFields = true)
    (hid : s.records.get? (record.siteId, record.invocationId) = none)
    (hkey : s.idempotency.get? (record.siteId, record.idempotencyKey) = none) :
    Simulates (s.stored record) (t.set (record.siteId, record.invocationId)
      (rowOf record.toInvocationFields)) := by
  constructor
  · intro key r hget
    rw [Memory.stored, Dict.get?_set] at hget
    split at hget
    next heq =>
      obtain rfl := Option.some.inj hget
      exact ⟨heq, Dict.get?_set_self _ _ _, hfits, hdated⟩
    next hne =>
      obtain ⟨hsame, hidempotency, hrest⟩ := h.records key r hget
      refine ⟨hsame, ?_, hrest⟩
      rw [Memory.stored, Dict.get?_set_of_ne _ _ fun heq => ?_]
      · exact hidempotency
      · rw [heq, hkey] at hidempotency
        cases hidempotency
  · intro key r hget
    rw [Memory.stored, Dict.get?_set] at hget
    split at hget
    next heq =>
      obtain rfl := Option.some.inj hget
      exact ⟨heq, Dict.get?_set_self _ _ _⟩
    next hne =>
      obtain ⟨hsame, hrecord⟩ := h.idempotency key r hget
      refine ⟨hsame, ?_⟩
      rw [Memory.stored, Dict.get?_set_of_ne _ _ fun heq => ?_]
      · exact hrecord
      · rw [heq, hid] at hrecord
        cases hrecord
  · rw [h.table, Memory.stored, Dict.map_set]

/-- A record that is appended alike is answered alike. -/
theorem Simulates.append (halike : AppendsAlike s record) :
    agree ((Memory.append record).run s).1 ((Postgres.append record).run t).1 = true ∧
      Simulates ((Memory.append record).run s).2 ((Postgres.append record).run t).2 := by
  obtain ⟨hfits, hfresh⟩ := halike
  rw [run_append_memory, run_append_postgres t record hfits, h.find?_isConflict, h.get?_table]
  cases hget : s.idempotency.get? (record.siteId, record.idempotencyKey) with
  | some existing =>
      obtain ⟨-, hrecord⟩ := h.idempotency _ _ hget
      obtain ⟨-, -, hfits, hdated⟩ := h.records _ _ hrecord
      obtain ⟨stored, hread, heq⟩ := recordFromRow_rowOf hfits hdated
      simp only [Option.map_some, hread]
      rw [← ModelInvocationRecord.eq_congr heq record]
      refine ⟨?_, h⟩
      cases existing.eq record with
      | true => exact heq
      | false => rfl
  | none =>
      obtain ⟨hid, hdated⟩ := hfresh hget
      obtain ⟨stored, hread, heq⟩ := recordFromRow_rowOf hfits hdated
      simp only [Option.map_none, hid, hread, Option.isSome_none, Bool.false_eq_true, if_false]
      exact ⟨heq, h.stored record hfits hdated hid hget⟩

/-- A record that is answered alike is appended alike. -/
theorem Simulates.appendsAlike
    (hagree : agree ((Memory.append record).run s).1 ((Postgres.append record).run t).1 = true) :
    AppendsAlike s record := by
  have hmemory := run_append_memory s record
  have hfits : fitsColumns record.toInvocationFields = true := by
    by_contra hnot
    have hparams : recordParams record.toInvocationFields = .error .dataError := if_neg hnot
    have hpostgres : (Postgres.append record).run t = (.error .dataError, t) := by
      rw [Postgres.append, Proc.run_atomically, hparams, Proc.run_lift_bind]
    rw [hpostgres, hmemory] at hagree
    revert hagree
    cases s.idempotency.get? (record.siteId, record.idempotencyKey) with
    | some existing =>
        dsimp only
        cases existing.eq record <;> exact Bool.false_ne_true
    | none =>
        dsimp only
        split <;> exact Bool.false_ne_true
  refine ⟨hfits, fun hkey => ?_⟩
  have hpostgres := run_append_postgres t record hfits
  rw [h.find?_isConflict, h.get?_table, hkey] at hpostgres
  rw [hkey] at hmemory
  dsimp only [Option.map_none] at hmemory hpostgres
  cases hid : s.records.get? (record.siteId, record.invocationId) with
  | some existing =>
      rw [hid] at hmemory hpostgres
      rw [hmemory, hpostgres] at hagree
      exact absurd hagree Bool.false_ne_true
  | none =>
      rw [hid] at hmemory hpostgres
      rw [hmemory, hpostgres] at hagree
      refine ⟨rfl, ?_⟩
      cases hread : recordFromRow (record.siteId, record.invocationId)
          (rowOf record.toInvocationFields) with
      | ok r => exact isDated_of_recordFromRow hread
      | error e =>
          simp only [hread] at hagree
          exact absurd hagree Bool.false_ne_true

end Simulates

/-- A run is answered alike exactly if every record fits the table, and every record under a new key
has a new identifier and times with dates in UTC. -/
theorem append_agrees_iff (records : List ModelInvocationRecord) :
    List.Forall₂ (fun a b => a.1 = b.1 ∧ agree a.2 b.2 = true)
        (Memory.machine.trace {} records) (Postgres.machine.trace Dict.empty records) ↔
      Memory.machine.Guarded AppendsAlike {} records := by
  refine Machine.forall₂_trace_iff_guarded (M := Memory.machine) (N := Postgres.machine)
    (R := Simulates) (A := fun a b => agree a b = true)
    (fun s t record h halike => h.append record halike)
    (fun s t record h hagree => h.appendsAlike record hagree) ⟨?_, ?_, rfl⟩ records
  · intro key r hget
    cases hget
  · intro key r hget
    cases hget

/-! ### An identifier that comes back under another key -/

theorem noReferences_valid : ∀ values ∈ [([] : List String), [], []],
    values.Nodup ∧ ∀ value ∈ values, value ≠ "" ∧ value.length ≤ 256 := by decide

/-- The fields of a failed call, under one of two keys. -/
def failedFields (again : Bool) : InvocationFields where
  invocationId := "invocation-1"
  siteId := "acme"
  provider := "deepseek"
  requestedModel := "deepseek-v4-pro"
  observedModel := none
  promptVersion := "1.0"
  outputSchemaVersion := "1.0"
  policyVersion := "1.0"
  tokenizerVersion := "1.0"
  requestId := "request-1"
  responseId := none
  startedAt := newYear
  completedAt := none
  latencyMs := none
  status := .failed
  tokenUsage := .unknown
  cost := .unknown
  networkCallCount := 1
  toolCallCount := 0
  externalSendCount := 0
  references := ⟨[], [], [], noReferences_valid⟩
  idempotencyKey := if again then "key-2" else "key-1"
  attempt := 1
  retryCount := 0
  finishCode := none
  errorCode := some "internal_error"
  budgetStatus := .normal
  priceCatalogVersion := none
  outputDigest := none

theorem failedFields_checked : ∀ again, (failedFields again).postInit = .ok () := by
  decide +kernel

def failedCall (again : Bool) : ModelInvocationRecord :=
  ⟨failedFields again, failedFields_checked again⟩

/-- The dictionaries raise a conflict, and the table its violated primary key. -/
theorem reused_id_disagrees :
    ¬List.Forall₂ (fun a b => a.1 = b.1 ∧ agree a.2 b.2 = true)
      (Memory.machine.trace {} [failedCall false, failedCall true])
      (Postgres.machine.trace Dict.empty [failedCall false, failedCall true]) := by
  intro h
  simp only [Machine.trace_cons] at h
  rcases h with _ | ⟨-, _ | ⟨⟨-, hconflict⟩, -⟩⟩
  exact absurd hconflict (by decide +kernel)

end EsanGbos.AgentRuntime.InvocationStore
