import EsanGbos.Lib.Nearest
import EsanGbos.Lib.Rounding
import EsanGbos.Metrics.Projector

/-!
# Whether a metric is available

`MetricsService` answers a query from a stored projection. The age of the row is a float of seconds
that is rounded up, its coverage a decimal quotient, and the variance of its reconciliation loses
digits when its sign is taken off. The answer follows the policy as far as none of the three is
rounded across its bound.

## Main definitions

* `evaluate` — the decision and the response.
* `Follows` — the answer that the policy demands, in rational numbers.
* `Unrounded` — no number lies between its bound and the middle of the bound's neighbours.

## Main results

* `evaluate_follows_iff` — the answers that follow the policy.
-/
namespace EsanGbos.Metrics.Service
open Lib

/-! ## Definitions and queries -/

/-- A bound that is no number is infinite. -/
inductive Tolerance where
  | finite (d : Decimal)
  | infinite
deriving DecidableEq

/-- The number is within the tolerance. -/
def Tolerance.Allows : Tolerance → ℚ → Prop
  | finite d, q => q ≤ d.value
  | infinite, _ => True

instance (tolerance : Tolerance) (q : ℚ) : Decidable (tolerance.Allows q) := by
  cases tolerance with
  | finite d => exact inferInstanceAs (Decidable (q ≤ d.value))
  | infinite => exact inferInstanceAs (Decidable True)

/-- The fields of a definition. -/
structure DefinitionFields extends MetricDefinition where
  unit : String
  freshnessSloSeconds : ℤ
  minimumCoverage : Decimal
  reconciliationTolerance : Tolerance
  windowType : String
  windowGrain : String
  displayName : Option String
deriving DecidableEq

def windowTypes : List String := ["rolling", "calendar", "point_in_time"]
def windowGrains : List String := ["hour", "day", "week", "month", "quarter", "year", "instant"]

/-- The check of a name that may be missing. -/
def requireDisplayName : Option String → Except Raise Unit
  | some displayName => do
      requireIdentifier displayName "display_name"
      rejectIf (160 < displayName.length) "display_name exceeds 160 characters"
  | none => .ok ()

/-- `MetricDefinition.__post_init__`. -/
def DefinitionFields.check (definition : DefinitionFields) : Except Raise Unit := do
  requireMetricKey definition.metricKey
  requireIdentifier definition.definitionVersion "definition_version"
  requireIdentifier definition.unit "unit"
  requireDisplayName definition.displayName
  rejectIf (definition.freshnessSloSeconds < 1) "freshness_slo_seconds must be positive"
  rejectIf (¬(0 ≤ definition.minimumCoverage.value ∧ definition.minimumCoverage.value ≤ 1))
    "minimum_coverage must be between 0 and 1"
  rejectIf (¬definition.reconciliationTolerance.Allows 0)
    "reconciliation_tolerance must be non-negative"
  rejectIf (definition.windowType ∉ windowTypes) "window_type is not governed"
  rejectIf (definition.windowGrain ∉ windowGrains) "window_grain is not governed"

/-- A definition as the service reads it. -/
structure ServiceDefinition extends DefinitionFields where
  valid : toDefinitionFields.check.isOk = true

/-- The fields of a query. -/
structure QueryFields where
  siteId : String
  metricKey : String
  windowStart : Datetime
  windowEnd : Datetime
  queriedAt : Datetime
  requestId : String

/-- `MetricQuery.__post_init__`. -/
def QueryFields.check (query : QueryFields) : Except Raise Unit := do
  rejectIf (isSiteId query.siteId = false) "site_id is invalid"
  requireMetricKey query.metricKey
  let _ ← requireWindow (some query.windowStart) (some query.windowEnd)
  let _ ← requireUtc (some query.queriedAt) "queried_at"
  requireIdentifier query.requestId "request_id"
  rejectIf (query.queriedAt.instant < query.windowStart.instant)
    "metric window cannot start after queried_at"

structure MetricQuery extends QueryFields where
  valid : toQueryFields.check.isOk = true

/-! ## Numbers -/

/-- A `float`; no value where it is infinite. -/
def toFloat (q : ℚ) : Option ℚ :=
  let y := binary64.round q
  if (2 : ℚ) ^ 1024 ≤ |y| then none else some y

/-- `(queried_at - as_of).total_seconds()`. -/
def totalSeconds (duration : Timedelta) : ℚ := binary64.round (duration / 1000000)

/-- `abs(d)`, which is rounded; no value where that overflows. -/
def absolute (ctx : DecimalContext) (d : Decimal) : Option ℚ :=
  let y := ctx.format.round |d.value|
  if (10 : ℚ) ^ (ctx.emax + 1) ≤ y then none else some y

/-- `Decimal(included) / Decimal(total)`, of counts that do not exceed the total. -/
def quotient (ctx : DecimalContext) (includedCount totalCount : ℤ) : ℚ :=
  ctx.format.round (includedCount / totalCount)

/-! ## The response -/

inductive UnavailableReason where
  | definitionUnavailable | sourceUnavailable | stale | insufficientCoverage
  | reconciliationFailed | ungovernedSource
deriving DecidableEq, Repr

inductive FreshnessStatus where
  | fresh | stale | unknown
deriving DecidableEq, Repr

inductive CoverageStatus where
  | sufficient | insufficient | unknown
deriving DecidableEq, Repr

inductive ReconciliationStatus where
  | passed | failed | notRun
deriving DecidableEq, Repr

structure Freshness where
  status : FreshnessStatus
  ageSeconds : ℤ
  sloSeconds : ℤ

structure Coverage where
  status : CoverageStatus
  ratio : Option ℚ
  includedCount : ℤ
  totalCount : ℤ

structure Reconciliation where
  status : ReconciliationStatus
  checkedAt : String
  reference : String
  variance : Option ℚ

/-- The one entry of the lineage; its `evidence_status` follows the mode of the source. -/
structure SourceLineage where
  sourceSystem : String
  sourceRecordRefs : List String
  retrievedAt : String
  transformationVersion : String

/-- The base of a response; its `schema_version` is always 3.0, and `synthetic` is the mode. -/
structure BaseResponse where
  metricKey : String
  displayName : String
  definitionVersion : String
  siteId : String
  asOf : String
  queriedAt : String
  windowType : String
  windowGrain : String
  windowStart : String
  windowEnd : String
  freshness : Freshness
  coverage : Coverage
  reconciliation : Reconciliation
  sourceLineage : SourceLineage
  sourceMode : SourceMode
  governedSources : Bool

/-- The `status` of a response, with what goes with it. -/
inductive Outcome where
  | available (value : Option ℚ) (unit : String)
  | unavailable (reason : UnavailableReason)

structure Response extends BaseResponse where
  outcome : Outcome

/-! ## The evaluation -/

/-- What `decimal` raises. -/
inductive ArithmeticError where
  | overflow
deriving DecidableEq, Repr

section Evaluation
variable (py : Stdlib) (ctx : DecimalContext) (sourceMode : SourceMode)
  (definition : ServiceDefinition) (query : MetricQuery)

/-- `display_name or metric_key`. -/
def displayNameOf : String :=
  match definition.displayName with
  | some displayName => if displayName = "" then definition.metricKey else displayName
  | none => definition.metricKey

/-- `_base_response`. -/
def baseResponse (projection : Option StoredProjection) (ageSeconds : ℤ) (coverageRatio : ℚ)
    (reconciled : Bool) : BaseResponse where
  metricKey := definition.metricKey
  displayName := displayNameOf definition
  definitionVersion := definition.definitionVersion
  siteId := query.siteId
  asOf := utcIso (projection.elim query.queriedAt (·.row.asOf))
  queriedAt := utcIso query.queriedAt
  windowType := definition.windowType
  windowGrain := definition.windowGrain
  windowStart := utcIso query.windowStart
  windowEnd := utcIso query.windowEnd
  freshness := {
    status := projection.elim .unknown fun projection =>
      if projection.row.asOf.instant ≤ query.queriedAt.instant ∧
        ageSeconds ≤ definition.freshnessSloSeconds then .fresh else .stale
    ageSeconds
    sloSeconds := definition.freshnessSloSeconds }
  coverage := {
    status := projection.elim .unknown fun _ =>
      if definition.minimumCoverage.value ≤ coverageRatio then .sufficient else .insufficient
    ratio := toFloat coverageRatio
    includedCount := projection.elim 0 (·.row.includedCount)
    totalCount := projection.elim 0 (·.row.totalCount) }
  reconciliation := {
    status := if reconciled then .passed else projection.elim .notRun fun _ => .failed
    checkedAt := utcIso (projection.elim query.queriedAt (·.row.reconciliationCheckedAt))
    reference := projection.elim "source-unavailable" (·.row.reconciliationReference)
    variance := projection.elim (some 0) fun projection =>
      toFloat projection.row.reconciliationVariance.value }
  sourceLineage := {
    sourceSystem := projection.elim s!"{sourceMode.value}_projection_unavailable"
      (·.batch.sourceSystem)
    sourceRecordRefs := projection.elim
      ["unavailable-" ++ String.ofList ((py.sha256 query.requestId.toList).toList.take 24)]
      (·.row.sourceRecordRefs)
    retrievedAt := utcIso (projection.elim query.queriedAt (·.batch.retrievedAt))
    transformationVersion := projection.elim "metrics-projection-v1"
      (·.batch.transformationVersion) }
  sourceMode
  governedSources := projection.any fun projection => projection.row.governed &&
    projection.row.definitionVersion = definition.definitionVersion

/-- `_unavailable`. -/
def unavailable (projection : Option StoredProjection) (reason : UnavailableReason) :
    Response × Option UnavailableReason :=
  ({ baseResponse py sourceMode definition query projection 0 0 false with
    outcome := .unavailable reason }, some reason)

/-- `age_seconds`. -/
def ageSeconds (row : ProjectionRow) : ℤ :=
  max 0 ⌈totalSeconds (query.queriedAt.instant - row.asOf.instant)⌉

/-- `coverage_ratio`. -/
def coverageRatio (row : ProjectionRow) : ℚ :=
  if row.totalCount = 0 then 0 else quotient ctx row.includedCount row.totalCount

/-- The first condition that fails; governance outranks the quality of the data. -/
def reasonOf (row : ProjectionRow) (ageSeconds : ℤ) (coverageRatio : ℚ) (reconciled : Bool) :
    Option UnavailableReason :=
  if !row.governed then some .ungovernedSource
  else if row.definitionVersion ≠ definition.definitionVersion then some .definitionUnavailable
  else if query.queriedAt.instant < row.asOf.instant ∨ definition.freshnessSloSeconds < ageSeconds
    then some .stale
  else if coverageRatio < definition.minimumCoverage.value then some .insufficientCoverage
  else if !reconciled then some .reconciliationFailed
  else none

/-- `_evaluate`. -/
def evaluate (projection : Option StoredProjection) :
    Except ArithmeticError (Response × Option UnavailableReason) :=
  match projection with
  | none => .ok (unavailable py sourceMode definition query none .sourceUnavailable)
  | some projection =>
      let row := projection.row
      let age := ageSeconds query row
      let ratio := coverageRatio ctx row
      match absolute ctx row.reconciliationVariance with
      | none => .error .overflow
      | some variance =>
          let reconciled := decide (definition.reconciliationTolerance.Allows variance ∧
            row.reconciliationCheckedAt.instant ≤ query.queriedAt.instant)
          let base := baseResponse py sourceMode definition query projection age ratio reconciled
          match reasonOf definition query row age ratio reconciled with
          | some reason => .ok ({ base with outcome := .unavailable reason }, some reason)
          | none => .ok ({ base with
              outcome := .available (toFloat row.value.value) definition.unit }, none)

end Evaluation

/-! ## The policy -/

section Policy
variable (ctx : DecimalContext) (definition : ServiceDefinition) (query : MetricQuery)
  (row : ProjectionRow)

/-- The row is not from the future and not older than the objective, to the microsecond. -/
def IsFresh : Prop :=
  row.asOf.instant ≤ query.queriedAt.instant ∧
    query.queriedAt.instant - row.asOf.instant ≤ definition.freshnessSloSeconds * 1000000

/-- Enough of the total is included; of no total, nothing may be demanded. -/
def IsCovered : Prop :=
  definition.minimumCoverage.value * row.totalCount ≤ row.includedCount ∧
    (0 < row.totalCount ∨ definition.minimumCoverage.value = 0)

/-- The variance is within the tolerance and was found no later than the query. -/
def IsReconciled : Prop :=
  definition.reconciliationTolerance.Allows |row.reconciliationVariance.value| ∧
    row.reconciliationCheckedAt.instant ≤ query.queriedAt.instant

/-- The row is governed under the registered version. -/
def IsGoverned : Prop :=
  row.governed = true ∧ row.definitionVersion = definition.definitionVersion

instance : Decidable (IsFresh definition query row) := by
  unfold IsFresh
  infer_instance

instance : Decidable (IsCovered definition row) := by
  unfold IsCovered
  infer_instance

instance : Decidable (IsReconciled definition query row) := by
  unfold IsReconciled
  infer_instance

instance : Decidable (IsGoverned definition row) := by
  unfold IsGoverned
  infer_instance

/-- The first condition that fails. -/
def policyReason : Option UnavailableReason :=
  if row.governed = false then some .ungovernedSource
  else if row.definitionVersion ≠ definition.definitionVersion then some .definitionUnavailable
  else if ¬IsFresh definition query row then some .stale
  else if ¬IsCovered definition row then some .insufficientCoverage
  else if ¬IsReconciled definition query row then some .reconciliationFailed
  else none

/-- Why a metric is not available. -/
def Outcome.reason? : Outcome → Option UnavailableReason
  | available _ _ => none
  | unavailable reason => some reason

/-- The decision is the one of the policy, and each block states its own condition. -/
structure StatesPolicy (response : Response) (reason : Option UnavailableReason) : Prop where
  reason_eq : reason = policyReason definition query row
  outcome_eq : response.outcome.reason? = policyReason definition query row
  freshness_eq : response.freshness.status =
    if IsFresh definition query row then .fresh else .stale
  coverage_eq : response.coverage.status =
    if IsCovered definition row then .sufficient else .insufficient
  reconciliation_eq : response.reconciliation.status =
    if IsReconciled definition query row then .passed else .failed
  governed_eq : response.governedSources = decide (IsGoverned definition row)

/-- There is an answer, and it follows the policy. -/
def Follows (r : Except ArithmeticError (Response × Option UnavailableReason)) : Prop :=
  ∃ response reason, r = .ok (response, reason) ∧
    StatesPolicy definition query row response reason

/-- No number lies between its bound and the middle of the neighbours of the bound: the age among
floats, the other two in the decimal context, where the variance does not overflow either. -/
structure Unrounded : Prop where
  age : row.asOf.instant ≤ query.queriedAt.instant →
    binary64.ClearAbove definition.freshnessSloSeconds
      (((query.queriedAt.instant - row.asOf.instant : ℤ) : ℚ) / 1000000)
  coverage : row.totalCount ≠ 0 →
    ctx.format.ClearOf definition.minimumCoverage.value (row.includedCount / row.totalCount)
  variance : row.reconciliationCheckedAt.instant ≤ query.queriedAt.instant →
    ∀ d, definition.reconciliationTolerance = .finite d →
      ctx.format.ClearAbove d.value |row.reconciliationVariance.value|
  bound : ¬ctx.format.Reaches |row.reconciliationVariance.value|
    ⌈(10 : ℚ) ^ (ctx.emax + 1) / ctx.format.unit |row.reconciliationVariance.value|⌉

variable {ctx definition query row}

/-! ## What the checks of the records say -/

theorem ServiceDefinition.bounds (definition : ServiceDefinition) :
    1 ≤ definition.freshnessSloSeconds ∧ 0 ≤ definition.minimumCoverage.value := by
  obtain ⟨u, hcheck⟩ := exists_eq_ok definition.valid
  simp only [DefinitionFields.check, Proc.bind_eq_ok, requireIdentifier, requireMetricKey,
    rejectIf_eq_ok, not_lt, not_not, exists_const] at hcheck
  obtain ⟨-, -, -, _, -, hslo, hcoverage, -⟩ := hcheck
  exact ⟨hslo, hcoverage.1⟩

/-! ## The three comparisons -/

/-- What the service takes for the age is within the objective. -/
theorem ageSeconds_le_iff : ageSeconds query row ≤ definition.freshnessSloSeconds ↔
    binary64.round (((query.queriedAt.instant - row.asOf.instant : ℤ) : ℚ) / 1000000) ≤
      definition.freshnessSloSeconds := by
  have hslo := definition.bounds.1
  unfold ageSeconds totalSeconds
  rw [max_le_iff, Int.ceil_le]
  exact and_iff_right (by omega)

theorem fresh_iff : ((row.asOf.instant ≤ query.queriedAt.instant ∧
      ageSeconds query row ≤ definition.freshnessSloSeconds) ↔ IsFresh definition query row) ↔
    (row.asOf.instant ≤ query.queriedAt.instant →
      binary64.ClearAbove definition.freshnessSloSeconds
        (((query.queriedAt.instant - row.asOf.instant : ℤ) : ℚ) / 1000000)) := by
  have hexact : ((query.queriedAt.instant - row.asOf.instant : ℤ) : ℚ) / 1000000 ≤
      definition.freshnessSloSeconds ↔
      query.queriedAt.instant - row.asOf.instant ≤ definition.freshnessSloSeconds * 1000000 := by
    rw [div_le_iff₀ (by norm_num)]
    exact_mod_cast Iff.rfl
  unfold IsFresh
  rw [Format.clearAbove_iff, ageSeconds_le_iff, hexact, and_congr_right_iff]

theorem covered_iff : (definition.minimumCoverage.value ≤ coverageRatio ctx row ↔
      IsCovered definition row) ↔
    (row.totalCount ≠ 0 → ctx.format.ClearOf definition.minimumCoverage.value
      (row.includedCount / row.totalCount)) := by
  have hminimum := definition.bounds.2
  obtain ⟨-, hincluded, htotal, -⟩ := row.consistent
  unfold coverageRatio IsCovered
  by_cases hzero : row.totalCount = 0
  · rw [if_pos hzero]
    refine iff_of_true ?_ fun hpositive => absurd hzero hpositive
    have hnone : row.includedCount = 0 := by omega
    rw [hzero, hnone]
    simp only [Int.cast_zero, mul_zero, le_refl, lt_irrefl, false_or, true_and]
    exact ⟨fun h => le_antisymm h hminimum, fun h => h.le⟩
  · rw [if_neg hzero]
    have hpositive : 0 < row.totalCount := by omega
    have hcast : (0 : ℚ) < row.totalCount := by exact_mod_cast hpositive
    rw [imp_iff_right hzero, Format.clearOf_iff, ← le_div_iff₀ hcast, quotient]
    constructor
    · intro h
      exact (h.trans (and_iff_left (.inl hpositive))).symm
    · intro h
      exact (h.symm.trans (and_iff_left (.inl hpositive)).symm)

theorem reconciled_iff {variance : ℚ}
    (h : absolute ctx row.reconciliationVariance = some variance) :
    ((definition.reconciliationTolerance.Allows variance ∧
        row.reconciliationCheckedAt.instant ≤ query.queriedAt.instant) ↔
      IsReconciled definition query row) ↔
    (row.reconciliationCheckedAt.instant ≤ query.queriedAt.instant →
      ∀ d, definition.reconciliationTolerance = .finite d →
        ctx.format.ClearAbove d.value |row.reconciliationVariance.value|) := by
  obtain rfl : ctx.format.round |row.reconciliationVariance.value| = variance := by
    unfold absolute at h
    dsimp only at h
    split at h
    · cases h
    · exact Option.some.inj h
  unfold IsReconciled
  rw [and_congr_left_iff]
  refine imp_congr_right fun _ => ?_
  cases definition.reconciliationTolerance with
  | infinite => exact iff_of_true Iff.rfl fun _ h => nomatch h
  | finite d =>
      constructor
      · rintro hiff _ ⟨⟩
        exact Format.clearAbove_iff.mpr hiff
      · intro hclear
        exact Format.clearAbove_iff.mp (hclear d rfl)

/-- The variance keeps a sign-free value unless it overflows. -/
theorem absolute_eq_none : absolute ctx row.reconciliationVariance = none ↔
    ctx.format.Reaches |row.reconciliationVariance.value|
      ⌈(10 : ℚ) ^ (ctx.emax + 1) / ctx.format.unit |row.reconciliationVariance.value|⌉ := by
  rw [← Format.le_round_iff]
  unfold absolute
  dsimp only
  split
  next h => exact iff_of_true rfl h
  next h => exact iff_of_false nofun h

/-! ## The answer -/

/-- The first condition that fails is the policy's, if the three comparisons are. -/
theorem reasonOf_eq {ratio : ℚ} {reconciled : Bool}
    (hfresh : (row.asOf.instant ≤ query.queriedAt.instant ∧
      ageSeconds query row ≤ definition.freshnessSloSeconds) ↔ IsFresh definition query row)
    (hcovered : definition.minimumCoverage.value ≤ ratio ↔ IsCovered definition row)
    (hreconciled : reconciled = true ↔ IsReconciled definition query row) :
    reasonOf definition query row (ageSeconds query row) ratio reconciled =
      policyReason definition query row := by
  have hstale : (query.queriedAt.instant < row.asOf.instant ∨
      definition.freshnessSloSeconds < ageSeconds query row) ↔ ¬IsFresh definition query row := by
    rw [← hfresh, not_and_or, not_le, not_le]
  have hshort : ratio < definition.minimumCoverage.value ↔ ¬IsCovered definition row := by
    rw [← hcovered, not_le]
  have hfailed : (!reconciled) = true ↔ ¬IsReconciled definition query row := by
    rw [← hreconciled, Bool.not_eq_true', Bool.not_eq_true]
  unfold reasonOf policyReason
  simp only [hstale, hshort, hfailed, Bool.not_eq_true']

/-- Two statuses of two values are the same if the conditions are. -/
theorem status_eq_iff {α : Type} {p q : Prop} [Decidable p] [Decidable q] {a b : α} (hne : a ≠ b) :
    (if p then a else b) = (if q then a else b) ↔ (p ↔ q) := by
  by_cases hp : p
  · by_cases hq : q
    · simp [hp, hq]
    · simp [hp, hq, hne]
  · by_cases hq : q
    · simp [hp, hq, hne.symm]
    · simp [hp, hq]

/-- There is an answer unless the variance overflows, and its outcome is the decision. -/
theorem evaluate_some {py : Stdlib} {sourceMode : SourceMode} {projection : StoredProjection}
    {variance : ℚ} (h : absolute ctx projection.row.reconciliationVariance = some variance) :
    let reconciled := decide (definition.reconciliationTolerance.Allows variance ∧
      projection.row.reconciliationCheckedAt.instant ≤ query.queriedAt.instant)
    let age := ageSeconds query projection.row
    let ratio := coverageRatio ctx projection.row
    let reason := reasonOf definition query projection.row age ratio reconciled
    ∃ outcome, outcome.reason? = reason ∧
      evaluate py ctx sourceMode definition query (some projection) =
        .ok ({ baseResponse py sourceMode definition query (some projection) age ratio
          reconciled with outcome }, reason) := by
  intro reconciled age ratio reason
  have heq : evaluate py ctx sourceMode definition query (some projection) =
      match reason with
      | some reason => .ok ({ baseResponse py sourceMode definition query (some projection) age ratio
          reconciled with outcome := .unavailable reason }, some reason)
      | none => .ok ({ baseResponse py sourceMode definition query (some projection) age ratio
          reconciled with
          outcome := .available (toFloat projection.row.value.value) definition.unit }, none) := by
    unfold evaluate
    dsimp only
    rw [h]
  rw [heq]
  cases reason with
  | some r => exact ⟨.unavailable r, rfl, rfl⟩
  | none => exact ⟨.available (toFloat projection.row.value.value) definition.unit, rfl, rfl⟩

theorem governedSources_eq {py : Stdlib} {sourceMode : SourceMode} {projection : StoredProjection}
    {age : ℤ} {ratio : ℚ} {reconciled : Bool} :
    (baseResponse py sourceMode definition query (some projection) age ratio
      reconciled).governedSources = decide (IsGoverned definition projection.row) := by
  rw [← Bool.coe_iff_coe, decide_eq_true_iff]
  simp [baseResponse, IsGoverned]

/-- **The answer to a query follows the policy exactly if nothing is rounded across its bound.** -/
theorem evaluate_follows_iff {py : Stdlib} {sourceMode : SourceMode}
    {projection : StoredProjection} :
    Follows definition query projection.row
        (evaluate py ctx sourceMode definition query (some projection)) ↔
      Unrounded ctx definition query projection.row := by
  have hpassed : ReconciliationStatus.passed ≠ .failed := by decide
  cases habsolute : absolute ctx projection.row.reconciliationVariance with
  | none =>
      refine iff_of_false ?_ fun h => h.bound (absolute_eq_none.mp habsolute)
      rintro ⟨_, _, h, -⟩
      unfold evaluate at h
      dsimp only at h
      rw [habsolute] at h
      cases h
  | some variance =>
      obtain ⟨outcome, houtcome, hevaluate⟩ :=
        @evaluate_some ctx definition query py sourceMode projection variance habsolute
      rw [hevaluate]
      have hbound : ¬ctx.format.Reaches |projection.row.reconciliationVariance.value|
          ⌈(10 : ℚ) ^ (ctx.emax + 1) /
            ctx.format.unit |projection.row.reconciliationVariance.value|⌉ := by
        intro hreaches
        rw [absolute_eq_none.mpr hreaches] at habsolute
        cases habsolute
      constructor
      · rintro ⟨response, reason, hok, hstates⟩
        obtain ⟨rfl, rfl⟩ := Prod.mk.inj (Except.ok.inj hok)
        have hreconciled := (status_eq_iff hpassed).mp hstates.reconciliation_eq
        rw [decide_eq_true_eq] at hreconciled
        exact ⟨fresh_iff.mp ((status_eq_iff (by decide)).mp hstates.freshness_eq),
          covered_iff.mp ((status_eq_iff (by decide)).mp hstates.coverage_eq),
          (reconciled_iff habsolute).mp hreconciled, hbound⟩
      · intro h
        have hfresh := fresh_iff.mpr h.age
        have hcovered := covered_iff.mpr h.coverage
        have hreconciled := decide_eq_true_iff.trans ((reconciled_iff habsolute).mpr h.variance)
        have hreason := reasonOf_eq hfresh hcovered hreconciled
        refine ⟨_, _, rfl, hreason, houtcome.trans hreason, (status_eq_iff (by decide)).mpr hfresh,
          (status_eq_iff (by decide)).mpr hcovered, ?_, ?_⟩
        · exact (status_eq_iff hpassed).mpr hreconciled
        · exact governedSources_eq

end Policy

/-! ## Two thirds -/

/-- A metric of which more than two thirds must be included, by a third of the last of 28 digits. -/
def thirdsFields : DefinitionFields where
  metricKey := "sales.order_value"
  definitionVersion := "1.0.0"
  unit := "CNY"
  freshnessSloSeconds := 3600
  minimumCoverage := ⟨false, 6666666666666666666666666667, -28⟩
  reconciliationTolerance := .finite ⟨false, 0, 0⟩
  windowType := "point_in_time"
  windowGrain := "instant"
  displayName := none

theorem thirdsFields_check : thirdsFields.check.isOk = true := by decide +kernel

def thirdsQueryFields : QueryFields where
  siteId := "acme"
  metricKey := "sales.order_value"
  windowStart := newYear
  windowEnd := newYear
  queriedAt := newYear
  requestId := "request-1"

theorem thirdsQueryFields_check : thirdsQueryFields.check.isOk = true := by decide +kernel

/-- A row that includes two of three records. -/
def thirdsRowFields : RowFields where
  rowId := "row-1"
  metricKey := "sales.order_value"
  windowStart := newYear
  windowEnd := newYear
  asOf := newYear
  value := ⟨false, 100, 0⟩
  includedCount := 2
  totalCount := 3
  reconciliationReference := "ledger-1"
  reconciliationVariance := ⟨false, 0, 0⟩
  reconciliationCheckedAt := newYear
  sourceRecordRefs := ["SO-1"]
  governed := true
  definitionVersion := "1.0.0"

theorem thirdsRowFields_check : thirdsRowFields.check.isOk = true := by decide +kernel

def thirdsRow : ProjectionRow := ⟨thirdsRowFields, thirdsRowFields_check⟩

def thirdsBatchFields : BatchFields where
  batchId := "batch-1"
  siteId := "acme"
  sourceMode := .synthetic
  checkpoint := "000001"
  sourceSystem := "synthetic-erp"
  transformationVersion := "v1"
  retrievedAt := newYear
  rows := [thirdsRow]

theorem thirdsBatchFields_check : thirdsBatchFields.check.isOk = true := by decide +kernel

def thirdsProjection : StoredProjection := ⟨⟨thirdsBatchFields, thirdsBatchFields_check⟩, thirdsRow⟩

/-- The quotient is rounded up to the minimum, and the metric is available. -/
theorem evaluate_thirds : ¬∀ (py : Stdlib) (sourceMode : SourceMode)
    (definition : ServiceDefinition) (query : MetricQuery) (projection : StoredProjection),
    Follows definition query projection.row
      (evaluate py defaultContext sourceMode definition query (some projection)) := by
  intro h
  obtain ⟨response, reason, hok, hstates⟩ := h (.ascii []) .synthetic
    ⟨thirdsFields, thirdsFields_check⟩ ⟨thirdsQueryFields, thirdsQueryFields_check⟩ thirdsProjection
  have hreason := congrArg (Except.map Prod.snd) hok
  have hcode : (evaluate (.ascii []) defaultContext .synthetic ⟨thirdsFields, thirdsFields_check⟩
      ⟨thirdsQueryFields, thirdsQueryFields_check⟩ (some thirdsProjection)).map Prod.snd =
        .ok none := by
    decide +kernel
  rw [hcode] at hreason
  obtain rfl : none = reason := Except.ok.inj hreason
  exact absurd hstates.reason_eq (by decide +kernel)

end EsanGbos.Metrics.Service
