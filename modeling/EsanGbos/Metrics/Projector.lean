import Mathlib.Data.List.Sort
import Mathlib.Data.String.Basic
import EsanGbos.Lib.Rounding
import EsanGbos.Metrics.Models

/-!
# The projector

A response of the adapter becomes a batch with one row: the sum of the value field over the records
that the crosswalk governs. The decimals are added in the context of the thread, which rounds.

## Main definitions

* `AdapterResponse`, `ProjectionInputs` — what is projected.
* `validateResponse` — the checks of a response.
* `project` — the batch of a response.

## Main results

* `project_exact` — when the value of the row is the sum of the records, and what else a batch says.
-/
namespace EsanGbos.Metrics
open Lib

/-! ## Responses -/

inductive AdapterStatus where
  | available | unavailable
deriving DecidableEq

inductive VerificationStatus where
  | verified | unavailable | notAttempted
deriving DecidableEq

structure VerificationSnapshot where
  startup : VerificationStatus
  authentication : VerificationStatus
  metadata : VerificationStatus
  business : VerificationStatus
deriving DecidableEq

structure ControlMetrics where
  networkCalls : ℤ
  writerToolsDiscovered : ℤ
  mutationAttempts : ℤ
  syntheticFallbacks : ℤ
deriving DecidableEq

/-- A value of the adapter. A float is the numeral that `str` writes for it; `nonFinite` is a
decimal without a value, and `other` is what the projector does not look into. -/
inductive Scalar where
  | none
  | bool (value : Bool)
  | int (value : ℤ)
  | float (numeral : List Char)
  | decimal (value : Decimal)
  | nonFinite
  | str (value : String)
  | other
deriving DecidableEq

/-- A value of a row. -/
inductive Cell where
  | scalar (value : Scalar)
  | mapping (entries : List (String × Scalar))
deriving DecidableEq

/-- A row of a response, which is a dictionary. -/
abbrev AdapterRow := List (String × Cell)

structure AdapterResponse where
  status : AdapterStatus
  requestId : String
  siteId : String
  logicalObject : String
  toolName : String
  synthetic : Bool
  rows : List AdapterRow
  page : List (String × Scalar)
  verification : VerificationSnapshot
  controls : ControlMetrics
  reasonCode : Option String

/-! ## Recipes and inputs -/

structure MetricRecipe where
  metricKey : String
  logicalObject : String
  toolName : String
  valueField : String
  sourceFields : List String
deriving DecidableEq

/-- `METRIC_RECIPES`. -/
def metricRecipes : List (String × MetricRecipe) :=
  [⟨"sales.order_value", "sales_order", "kingdee.sales_order.get", "total_amount",
      ["order_number", "customer_number", "order_date", "total_amount"]⟩,
    ⟨"inventory.on_hand_quantity", "inventory", "kingdee.inventory.get", "base_quantity",
      ["material_number", "warehouse_number", "base_quantity"]⟩,
    ⟨"receivables.balance", "receivable", "kingdee.receivable.get", "open_amount",
      ["bill_number", "customer_number", "due_date", "open_amount"]⟩].map
    fun recipe : MetricRecipe => (recipe.metricKey, recipe)

/-- What the projector reads of a definition. -/
structure MetricDefinition where
  metricKey : String
  definitionVersion : String
deriving DecidableEq

/-- `MetricRegistry`; exactly one mode is enabled. -/
structure MetricRegistry where
  definitions : List MetricDefinition
  enabledMode : SourceMode

/-- The fields of the inputs. -/
structure InputFields where
  metricKey : String
  windowStart : Datetime
  windowEnd : Datetime
  asOf : Datetime
  retrievedAt : Datetime
  checkpoint : String
  totalCount : ℤ
  reconciliationReference : String
  reconciliationVariance : Decimal
  reconciliationCheckedAt : Datetime
  definitionVersion : String
deriving DecidableEq

/-- `ProjectionInputs.__post_init__`; every decimal of the model is finite. -/
def InputFields.check (inputs : InputFields) : Except Raise Unit := do
  let _ ← requireWindow (some inputs.windowStart) (some inputs.windowEnd)
  let _ ← requireUtc (some inputs.asOf) "as_of"
  let _ ← requireUtc (some inputs.retrievedAt) "retrieved_at"
  let _ ← requireUtc (some inputs.reconciliationCheckedAt) "reconciliation_checked_at"
  requireIdentifier inputs.checkpoint "checkpoint"
  requireIdentifier inputs.reconciliationReference "reconciliation_reference"
  requireIdentifier inputs.definitionVersion "definition_version"
  rejectIf (inputs.totalCount < 0) "total_count must be non-negative"

structure ProjectionInputs extends InputFields where
  valid : toInputFields.check.isOk = true

/-! ## Checks of a response -/

inductive UnavailableReason where
  | sourceUnavailable | ungovernedSource
deriving DecidableEq, Repr

/-- What `project` raises: a rejection, an exception of a record, or `decimal.Overflow`. -/
inductive ProjectorError where
  | projectionRejected (reason : UnavailableReason) (message : String)
  | raised (e : Raise)
  | overflow
deriving DecidableEq, Repr

/-- A check that rejects the projection when its condition holds. -/
def rejectWhen (c : Prop) [Decidable c] (reason : UnavailableReason) (message : String) :
    Except ProjectorError Unit :=
  Proc.rejectIf c (.projectionRejected reason message)

/-- `set(keys) == set(expected)`. -/
def SameKeys (keys expected : List String) : Prop := keys ⊆ expected ∧ expected ⊆ keys

instance (keys expected : List String) : Decidable (SameKeys keys expected) :=
  inferInstanceAs (Decidable (_ ∧ _))

/-- `_valid_crosswalk_ref`. -/
def validCrosswalkRef (value : Option String) : Bool := value.any (isIdentifier 256)

/-- `_decimal_value`. An integer of more than 4300 digits has no text. -/
def decimalValue : Scalar → Except ProjectorError Decimal
  | .int n =>
      if 10 ^ 4300 ≤ n.natAbs then .error (.raised .valueError) else .ok ⟨n < 0, n.natAbs, 0⟩
  | .float numeral =>
      match Decimal.read numeral with
      | some d => .ok d
      | none =>
          .error (.projectionRejected .ungovernedSource "metric recipe value must be finite")
  | .decimal d => .ok d
  | .nonFinite =>
      .error (.projectionRejected .ungovernedSource "metric recipe value must be finite")
  | _ => .error (.projectionRejected .ungovernedSource "metric recipe value is not numeric")

/-- `str(row["record_ref"])` of a checked row. -/
def recordRef (row : AdapterRow) : String :=
  match row.lookup "record_ref" with
  | some (.scalar (.str ref)) => ref
  | _ => ""

/-- `row["values"]` of a checked row. -/
def rowValues (row : AdapterRow) : List (String × Scalar) :=
  match row.lookup "values" with
  | some (.mapping values) => values
  | _ => []

/-- The value field of a row. -/
def rowValue (recipe : MetricRecipe) (row : AdapterRow) : Except ProjectorError Decimal :=
  decimalValue (((rowValues row).lookup recipe.valueField).getD .none)

/-- The record reference of a row is a text, and its values are a dictionary. -/
def wellTyped (row : AdapterRow) : Bool :=
  match row.lookup "record_ref", row.lookup "values" with
  | some (.scalar (.str _)), some (.mapping _) => true
  | _, _ => false

/-- The condition that a row is rejected for, but for its reference having been observed. -/
def RowRejected (synthetic : Bool) (recipe : MetricRecipe) (row : AdapterRow) : Prop :=
  ¬ SameKeys (row.map Prod.fst)
      (if synthetic then ["record_ref", "values", "synthetic"] else ["record_ref", "values"]) ∨
    (synthetic = true ∧ row.lookup "synthetic" ≠ some (.scalar (.bool true))) ∨
    wellTyped row = false ∨ ¬ SameKeys ((rowValues row).map Prod.fst) recipe.sourceFields

instance (synthetic : Bool) (recipe : MetricRecipe) (row : AdapterRow) :
    Decidable (RowRejected synthetic recipe row) :=
  inferInstanceAs (Decidable (_ ∨ _))

/-- The loop of `_validate_response` over the rows. -/
def validateRows (synthetic : Bool) (recipe : MetricRecipe) :
    List String → List AdapterRow → Except ProjectorError Unit
  | _, [] => .ok ()
  | observedRefs, row :: rows => do
      rejectWhen (RowRejected synthetic recipe row ∨ recordRef row ∈ observedRefs)
        .ungovernedSource "adapter row does not match the exact governed field recipe"
      let _ ← rowValue recipe row
      validateRows synthetic recipe (recordRef row :: observedRefs) rows

/-- An integer of the page, which is no boolean. -/
def Scalar.int? : Scalar → Option ℤ
  | int n => some n
  | _ => Option.none

def Scalar.bool? : Scalar → Option Bool
  | bool b => some b
  | _ => Option.none

/-- `MAX_PROJECTION_ROWS`. -/
def maxProjectionRows : ℕ := 50

/-- The metadata of the page agree with the rows. -/
def pageConsistent (response : AdapterResponse) (totalCount : ℤ) : Bool :=
  let n : ℤ := response.rows.length
  match (response.page.lookup "returned_rows").bind Scalar.int?,
      (response.page.lookup "limit").bind Scalar.int?,
      (response.page.lookup "offset").bind Scalar.int?,
      (response.page.lookup "has_more").bind Scalar.bool? with
  | some returnedRows, some limit, some offset, some hasMore =>
      returnedRows = n ∧ 1 ≤ limit ∧ limit ≤ maxProjectionRows ∧ n ≤ limit ∧ 0 ≤ offset ∧
        offset + n ≤ totalCount ∧ ¬ (hasMore = true ∧ totalCount ≤ offset + n)
  | _, _, _, _ => false

/-- `_validate_response`. -/
def validateResponse (response : AdapterResponse) (recipe : MetricRecipe)
    (inputs : ProjectionInputs) : Except ProjectorError Unit := do
  rejectWhen (response.status ≠ .available) .sourceUnavailable
    "unavailable adapter response cannot produce a projection"
  rejectWhen (response.reasonCode.isSome) .sourceUnavailable
    "available adapter response cannot carry a failure reason"
  rejectWhen (response.logicalObject ≠ recipe.logicalObject ∨ response.toolName ≠ recipe.toolName)
    .ungovernedSource "adapter response does not match the exact metric recipe"
  rejectWhen (response.verification ≠ ⟨.verified, .verified, .verified, .verified⟩)
    .sourceUnavailable "adapter verification is incomplete"
  rejectWhen (response.controls.writerToolsDiscovered ≠ 0 ∨
      response.controls.mutationAttempts ≠ 0 ∨ response.controls.syntheticFallbacks ≠ 0)
    .ungovernedSource "adapter controls do not prove a read-only non-fallback response"
  rejectWhen (response.synthetic = true ∧ response.controls.networkCalls ≠ 0) .ungovernedSource
    "synthetic adapter response cannot contain network calls"
  rejectWhen (¬ (1 ≤ response.rows.length ∧ response.rows.length ≤ maxProjectionRows))
    .sourceUnavailable "adapter response row count is outside the projection budget"
  rejectWhen (pageConsistent response inputs.totalCount = false) .ungovernedSource
    "adapter page metadata is inconsistent or unbounded"
  validateRows response.synthetic recipe [] response.rows

/-! ## The projection -/

section Projection
variable (py : Stdlib) (ctx : DecimalContext) (registry : MetricRegistry)
  (response : AdapterResponse) (inputs : ProjectionInputs) (crosswalk : String → Option String)

/-- `utc_iso`. -/
def utcIso (d : Datetime) : String :=
  String.ofList (replace d.isoformat "+00:00".toList "Z".toList)

/-- `sorted(response.rows, key=lambda row: str(row["record_ref"]))`. -/
def orderedRows (rows : List AdapterRow) : List AdapterRow :=
  rows.insertionSort fun row row' => recordRef row ≤ recordRef row'

/-- The rows whose value is added. -/
def includedRows (rows : List AdapterRow) : List AdapterRow :=
  ((rows.zip (rows.map (crosswalk ∘ recordRef))).filter fun row => validCrosswalkRef row.2).map
    Prod.fst

/-- The document that the identifiers digest, with its keys in order. -/
def identityDocument (rows : List AdapterRow) (value : Decimal) : Json :=
  .obj [("as_of", .str (utcIso inputs.asOf)), ("checkpoint", .str inputs.checkpoint),
    ("crosswalk_refs", .arr (rows.map fun row => .ofOption .str (crosswalk (recordRef row)))),
    ("definition_version", .str inputs.definitionVersion), ("metric_key", .str inputs.metricKey),
    ("reconciliation_checked_at", .str (utcIso inputs.reconciliationCheckedAt)),
    ("reconciliation_reference", .str inputs.reconciliationReference),
    ("reconciliation_variance", .str (String.ofList inputs.reconciliationVariance.text)),
    ("request_id", .str response.requestId), ("retrieved_at", .str (utcIso inputs.retrievedAt)),
    ("site_id", .str response.siteId),
    ("source_mode", .str (if response.synthetic then SourceMode.synthetic else .live).value),
    ("source_refs", .ofStrs (rows.map recordRef)), ("total_count", .int inputs.totalCount),
    ("value", .str (String.ofList value.text)), ("window_end", .str (utcIso inputs.windowEnd)),
    ("window_start", .str (utcIso inputs.windowStart))]

/-- A record with its check. -/
def makeRow (fields : RowFields) : Except ProjectorError ProjectionRow :=
  if h : fields.check.isOk = true then .ok ⟨fields, h⟩
  else .error (.raised (match fields.check with | .error e => e | .ok _ => .valueError))

def makeBatch (fields : BatchFields) : Except ProjectorError ProjectionBatch :=
  if h : fields.check.isOk = true then .ok ⟨fields, h⟩
  else .error (.raised (match fields.check with | .error e => e | .ok _ => .valueError))

/-- The row of a projection. -/
def projectionRow (digest : String) (rows : List AdapterRow) (value : Decimal) : RowFields :=
  let resolved := rows.map (crosswalk ∘ recordRef)
  let governedRefs := resolved.filter validCrosswalkRef
  { rowId := "metric-row-" ++ String.ofList (digest.toList.take 24)
    metricKey := inputs.metricKey
    definitionVersion := inputs.definitionVersion
    windowStart := inputs.windowStart
    windowEnd := inputs.windowEnd
    asOf := inputs.asOf
    value := value
    includedCount := governedRefs.length
    totalCount := inputs.totalCount
    reconciliationReference := inputs.reconciliationReference
    reconciliationVariance := inputs.reconciliationVariance
    reconciliationCheckedAt := inputs.reconciliationCheckedAt
    sourceRecordRefs := rows.map recordRef
    governed := governedRefs.length = rows.length ∧ governedRefs.Nodup }

/-- The batch of a projection. -/
def projectionBatch (digest : String) (row : ProjectionRow) : BatchFields where
  batchId := "metric-batch-" ++ String.ofList ((digest.toList.drop 24).take 24)
  siteId := response.siteId
  sourceMode := if response.synthetic then .synthetic else .live
  checkpoint := inputs.checkpoint
  sourceSystem := if response.synthetic then "kingdee-gate5-synthetic" else "kingdee-live-read"
  transformationVersion := "metrics-projection-v1"
  retrievedAt := inputs.retrievedAt
  rows := [row]

/-- `project`, once the response has been checked and its rows are in order. -/
def projectRows (recipe : MetricRecipe) (rows : List AdapterRow) :
    Except ProjectorError ProjectionBatch := do
  let values ← (includedRows crosswalk rows).mapM (rowValue recipe)
  match Decimal.sum ctx ⟨false, 0, 0⟩ values with
  | none => .error .overflow
  | some value => do
      Proc.rejectIf (10 ^ 4300 ≤ inputs.totalCount) (.raised .valueError)
      let digest := digest py (identityDocument response inputs crosswalk rows value)
      let row ← makeRow (projectionRow inputs crosswalk digest rows value)
      makeBatch (projectionBatch response inputs digest row)

/-- `project`. -/
def project : Except ProjectorError ProjectionBatch :=
  match registry.definitions.find? (·.metricKey = inputs.metricKey) with
  | none => .error (.raised (.validationError "metric_key is not registered"))
  | some definition =>
      match metricRecipes.lookup inputs.metricKey with
      | none => .error (.projectionRejected .ungovernedSource
          "metric has no exact governed projection recipe")
      | some recipe => do
          rejectWhen (inputs.definitionVersion ≠ definition.definitionVersion) .ungovernedSource
            "projection definition version is not governed"
          rejectWhen ((if response.synthetic then .synthetic else .live) ≠ registry.enabledMode)
            .ungovernedSource "adapter source mode is disabled by the governed registry"
          validateResponse response recipe inputs
          projectRows py ctx response inputs crosswalk recipe (orderedRows response.rows)

end Projection

/-! ## Accepted responses -/

section Accepted
variable {synthetic : Bool} {recipe : MetricRecipe} {rows rows' : List AdapterRow}
  {response : AdapterResponse} {inputs : ProjectionInputs}

theorem rejectWhen_eq_ok {c : Prop} [Decidable c] {reason : UnavailableReason} {message : String}
    {u : Unit} : rejectWhen c reason message = .ok u ↔ ¬ c :=
  Proc.rejectIf_eq_ok

/-- The loop accepts the rows if each is accepted and no reference comes twice. -/
theorem validateRows_eq_ok {observedRefs : List String} :
    validateRows synthetic recipe observedRefs rows = .ok () ↔
      (∀ row ∈ rows, ¬ RowRejected synthetic recipe row ∧ recordRef row ∉ observedRefs ∧
        ∃ d, rowValue recipe row = .ok d) ∧ (rows.map recordRef).Nodup := by
  induction rows generalizing observedRefs with
  | nil => simp [validateRows]
  | cons row rows ih =>
      simp only [validateRows, Proc.bind_eq_ok, rejectWhen_eq_ok, not_or, ih, List.forall_mem_cons,
        List.map_cons, List.nodup_cons, List.mem_map, not_exists, not_and]
      constructor
      · rintro ⟨-, ⟨hrejected, hobserved⟩, d, hd, hrows, hnodup⟩
        refine ⟨⟨⟨hrejected, hobserved, d, hd⟩, ?_⟩, ?_, hnodup⟩
        · intro other hother
          obtain ⟨haccepted, hnew, hvalue⟩ := hrows other hother
          exact ⟨haccepted, fun hmem => hnew (List.mem_cons_of_mem _ hmem), hvalue⟩
        · intro other hother heq
          exact (hrows other hother).2.1 (List.mem_cons.mpr (.inl heq))
      · rintro ⟨⟨⟨hrejected, hobserved, d, hd⟩, hrows⟩, hfresh, hnodup⟩
        refine ⟨(), ⟨hrejected, hobserved⟩, d, hd, ?_, hnodup⟩
        intro other hother
        obtain ⟨haccepted, hnew, hvalue⟩ := hrows other hother
        refine ⟨haccepted, ?_, hvalue⟩
        intro hmem
        rcases List.mem_cons.mp hmem with heq | hmem
        · exact hfresh other hother heq
        · exact hnew hmem

/-- What is checked of a response does not depend on the order of its rows. -/
theorem validateResponse_perm (hperm : rows'.Perm response.rows)
    (h : validateResponse response recipe inputs = .ok ()) :
    validateResponse { response with rows := rows' } recipe inputs = .ok () := by
  have hpage : pageConsistent { response with rows := rows' } inputs.totalCount =
      pageConsistent response inputs.totalCount := by
    unfold pageConsistent
    dsimp only
    rw [hperm.length_eq]
  simp only [validateResponse, Proc.bind_eq_ok, rejectWhen_eq_ok, validateRows_eq_ok] at h ⊢
  simp only [hpage, hperm.length_eq, hperm.mem_iff, (hperm.map recordRef).nodup_iff]
  exact h

theorem validateResponse_rows (h : validateResponse response recipe inputs = .ok ()) :
    (∀ row ∈ response.rows, ∃ d, rowValue recipe row = .ok d) ∧
      (response.rows.map recordRef).Nodup ∧ (response.rows.length : ℤ) ≤ inputs.totalCount := by
  simp only [validateResponse, Proc.bind_eq_ok, rejectWhen_eq_ok, validateRows_eq_ok] at h
  obtain ⟨-, -, -, -, -, -, -, -, -, -, -, -, -, -, -, hpage, hrows, hnodup⟩ := h
  refine ⟨fun row hrow => (hrows row hrow).2.2, hnodup, ?_⟩
  unfold pageConsistent at hpage
  split at hpage
  · simp only [Bool.not_eq_false, decide_eq_true_eq] at hpage
    omega
  · exact absurd rfl hpage

/-- The rows come in the order of their references, whatever order they had. -/
theorem orderedRows_eq (hperm : rows'.Perm rows) (hnodup : (rows.map recordRef).Nodup) :
    orderedRows rows' = orderedRows rows := by
  have hsorted : ∀ rows : List AdapterRow,
      (orderedRows rows).Pairwise fun row row' => recordRef row ≤ recordRef row' :=
    fun rows => List.pairwise_insertionSort _ rows
  have hleft : (orderedRows rows').Perm rows := (List.perm_insertionSort _ _).trans hperm
  have hright : (orderedRows rows).Perm rows := List.perm_insertionSort _ _
  refine List.Perm.eq_of_pairwise ?_ (hsorted rows') (hsorted rows) (hleft.trans hright.symm)
  intro row row' hrow hrow' hle hge
  exact List.inj_on_of_nodup_map hnodup (hleft.mem_iff.mp hrow) (hright.mem_iff.mp hrow')
    (le_antisymm hle hge)

theorem orderedRows_perm (rows : List AdapterRow) : (orderedRows rows).Perm rows :=
  List.perm_insertionSort _ _

end Accepted

/-! ## What a batch says -/

section Results
variable (recipe : MetricRecipe) (crosswalk : String → Option String)

/-- The crosswalk governs the record of the row. -/
def crosswalked (row : AdapterRow) : Bool := validCrosswalkRef (crosswalk (recordRef row))

/-- The decimal of the value field of a row. -/
def rowDecimal (row : AdapterRow) : Decimal :=
  match rowValue recipe row with
  | .ok d => d
  | .error _ => ⟨false, 0, 0⟩

/-- The exact sum of the value field. -/
def exactSum (rows : List AdapterRow) : ℚ := (rows.map fun row => (rowDecimal recipe row).value).sum

/-- Every exact partial sum of the governed records, in the order of their references, fits the
context. -/
def PartialSumsFit (ctx : DecimalContext) (rows : List AdapterRow) : Prop :=
  ∀ ys, ys <+: includedRows crosswalk (orderedRows rows) → ys ≠ [] →
    ctx.Fits (exactSum recipe ys)

variable {recipe crosswalk} {py : Stdlib} {ctx : DecimalContext} {registry : MetricRegistry}
  {response : AdapterResponse} {inputs : ProjectionInputs} {batch : ProjectionBatch}
  {rows : List AdapterRow}

theorem includedRows_eq (rows : List AdapterRow) :
    includedRows crosswalk rows = rows.filter (crosswalked crosswalk) := by
  unfold includedRows
  induction rows with
  | nil => rfl
  | cons row rows ih =>
      rw [List.map_cons, List.zip_cons_cons, List.filter_cons, List.filter_cons]
      have hsame : validCrosswalkRef (row, (crosswalk ∘ recordRef) row).2 =
          crosswalked crosswalk row := rfl
      rw [hsame]
      split
      · rw [List.map_cons, ih]
      · exact ih

theorem governedRefs_eq (rows : List AdapterRow) :
    (rows.map (crosswalk ∘ recordRef)).filter validCrosswalkRef =
      (rows.filter (crosswalked crosswalk)).map (crosswalk ∘ recordRef) := by
  rw [List.filter_map]
  rfl

theorem mapM_rowValue (h : ∀ row ∈ rows, ∃ d, rowValue recipe row = .ok d) :
    rows.mapM (rowValue recipe) = .ok (rows.map (rowDecimal recipe)) := by
  induction rows with
  | nil => rfl
  | cons row rows ih =>
      obtain ⟨hrow, hrows⟩ := List.forall_mem_cons.mp h
      obtain ⟨d, hd⟩ := hrow
      have hdecimal : rowDecimal recipe row = d := by
        unfold rowDecimal
        rw [hd]
      rw [List.mapM_cons, hd, ih hrows, List.map_cons, hdecimal]
      rfl

theorem makeRow_eq_ok {fields : RowFields} {row : ProjectionRow} (h : makeRow fields = .ok row) :
    row.toRowFields = fields := by
  unfold makeRow at h
  split at h
  next => rw [← Except.ok.inj h]
  next => cases h

theorem makeBatch_eq_ok {fields : BatchFields} (h : makeBatch fields = .ok batch) :
    batch.toBatchFields = fields := by
  unfold makeBatch at h
  split at h
  next => rw [← Except.ok.inj h]
  next => cases h

/-- Every record is governed, and no two by one reference. -/
theorem governed_iff (rows : List AdapterRow) :
    (((rows.map (crosswalk ∘ recordRef)).filter validCrosswalkRef).length = rows.length ∧
        ((rows.map (crosswalk ∘ recordRef)).filter validCrosswalkRef).Nodup) ↔
      (∀ row ∈ rows, crosswalked crosswalk row = true) ∧
        (rows.map (crosswalk ∘ recordRef)).Nodup := by
  rw [governedRefs_eq, List.length_map, List.length_filter_eq_length_iff]
  constructor
  · rintro ⟨hall, hnodup⟩
    rw [List.filter_eq_self.mpr hall] at hnodup
    exact ⟨hall, hnodup⟩
  · rintro ⟨hall, hnodup⟩
    rw [List.filter_eq_self.mpr hall]
    exact ⟨hall, hnodup⟩

/-- An accepted response has a recipe, passes its checks, and becomes the batch of its ordered
rows. -/
theorem project_eq_ok (h : project py ctx registry response inputs crosswalk = .ok batch) :
    ∃ recipe, metricRecipes.lookup inputs.metricKey = some recipe ∧
      validateResponse response recipe inputs = .ok () ∧
      projectRows py ctx response inputs crosswalk recipe (orderedRows response.rows) =
        .ok batch := by
  unfold project at h
  split at h
  next => cases h
  next =>
    split at h
    next => cases h
    next recipe hrecipe =>
      obtain ⟨-, -, h⟩ := Proc.bind_eq_ok.mp h
      obtain ⟨-, -, h⟩ := Proc.bind_eq_ok.mp h
      obtain ⟨_, hvalid, h⟩ := Proc.bind_eq_ok.mp h
      exact ⟨recipe, hrecipe, hvalid, h⟩

/-- The rows of the batch are those of the sum. -/
theorem projectRows_eq_ok {ordered : List AdapterRow}
    (hvalues : ∀ row ∈ ordered, ∃ d, rowValue recipe row = .ok d)
    (h : projectRows py ctx response inputs crosswalk recipe ordered = .ok batch) :
    ∃ digest value row, batch.rows = [row] ∧
      Decimal.sum ctx ⟨false, 0, 0⟩
        ((includedRows crosswalk ordered).map (rowDecimal recipe)) = some value ∧
      row.toRowFields = projectionRow inputs crosswalk digest ordered value := by
  unfold projectRows at h
  have hincluded : ∀ row ∈ includedRows crosswalk ordered, ∃ d, rowValue recipe row = .ok d := by
    intro row hrow
    rw [includedRows_eq] at hrow
    exact hvalues row (List.mem_of_mem_filter hrow)
  rw [mapM_rowValue hincluded] at h
  obtain ⟨values, hmap, h⟩ := Proc.bind_eq_ok.mp h
  obtain rfl := Except.ok.inj hmap
  split at h
  next => cases h
  next value hvalue =>
    obtain ⟨-, -, h⟩ := Proc.bind_eq_ok.mp h
    obtain ⟨row, hrow, h⟩ := Proc.bind_eq_ok.mp h
    refine ⟨_, value, row, ?_, hvalue, makeRow_eq_ok hrow⟩
    rw [makeBatch_eq_ok h]
    rfl

/-- A response in another order gives the same batch. -/
theorem project_perm (h : project py ctx registry response inputs crosswalk = .ok batch)
    {rows' : List AdapterRow} (hperm : rows'.Perm response.rows) :
    project py ctx registry { response with rows := rows' } inputs crosswalk = .ok batch := by
  unfold project at h ⊢
  split at h
  next => cases h
  next =>
    split at h
    next => cases h
    next recipe hrecipe =>
      obtain ⟨_, hversion, h⟩ := Proc.bind_eq_ok.mp h
      obtain ⟨_, hmode, h⟩ := Proc.bind_eq_ok.mp h
      obtain ⟨_, hvalid, h⟩ := Proc.bind_eq_ok.mp h
      have hnodup := (validateResponse_rows hvalid).2.1
      rw [hversion, hmode]
      refine Proc.bind_eq_ok.mpr ⟨(), rfl, Proc.bind_eq_ok.mpr ⟨(), rfl, ?_⟩⟩
      refine Proc.bind_eq_ok.mpr ⟨(), validateResponse_perm hperm hvalid, ?_⟩
      dsimp only
      rw [orderedRows_eq hperm hnodup]
      exact h

/-- An accepted response gives a batch of one row, which counts the governed records, is governed if
all are and by different references, and does not depend on the order of the records. The additions
are exact all along exactly if the exact partial sums fit the context, and then the value is the sum
of the records. -/
theorem project_exact (h : project py ctx registry response inputs crosswalk = .ok batch) :
    ∃ recipe row, metricRecipes.lookup inputs.metricKey = some recipe ∧ batch.rows = [row] ∧
      row.includedCount = (response.rows.filter (crosswalked crosswalk)).length ∧
      row.includedCount ≤ row.totalCount ∧
      (row.governed = true ↔ (∀ r ∈ response.rows, crosswalked crosswalk r = true) ∧
        (response.rows.map (crosswalk ∘ recordRef)).Nodup) ∧
      (∀ rows' : List AdapterRow, rows'.Perm response.rows →
        project py ctx registry { response with rows := rows' } inputs crosswalk = .ok batch) ∧
      ((∀ ys, ys <+: includedRows crosswalk (orderedRows response.rows) → ∀ t,
          Decimal.sum ctx ⟨false, 0, 0⟩ (ys.map (rowDecimal recipe)) = some t →
          t.value = exactSum recipe ys) ↔
        PartialSumsFit recipe crosswalk ctx response.rows) ∧
      (PartialSumsFit recipe crosswalk ctx response.rows →
        row.value.value = exactSum recipe (response.rows.filter (crosswalked crosswalk))) := by
  obtain ⟨recipe, hrecipe, hvalid, hrows⟩ := project_eq_ok h
  obtain ⟨hvalues, -, htotal⟩ := validateResponse_rows hvalid
  have hperm := orderedRows_perm response.rows
  have hordered : ∀ row ∈ orderedRows response.rows, ∃ d, rowValue recipe row = .ok d := by
    intro row hrow
    exact hvalues row (hperm.mem_iff.mp hrow)
  obtain ⟨digest, value, row, hbatch, hsum, hrow⟩ := projectRows_eq_ok hordered hrows
  have hzero : (⟨false, 0, 0⟩ : Decimal).value = 0 := Decimal.value_of_coefficient_eq_zero rfl
  have hrunning : (∀ ys, ys <+: includedRows crosswalk (orderedRows response.rows) → ∀ t,
      Decimal.sum ctx ⟨false, 0, 0⟩ (ys.map (rowDecimal recipe)) = some t →
      t.value = exactSum recipe ys) ↔ PartialSumsFit recipe crosswalk ctx response.rows := by
    have hiff := Decimal.sum_map_exact_iff hsum
    simp only [hzero, zero_add] at hiff
    exact hiff
  refine ⟨recipe, row, hrecipe, hbatch, ?_, ?_, ?_, fun rows' => project_perm h, hrunning, ?_⟩
  · rw [hrow, projectionRow, governedRefs_eq, List.length_map, (hperm.filter _).length_eq]
  · exact row.consistent.2.2.1
  · rw [hrow, projectionRow, decide_eq_true_eq, governed_iff, (hperm.map _).nodup_iff]
    simp only [hperm.mem_iff]
  · intro hfit
    have hexact := hrunning.mpr hfit _ List.prefix_rfl value hsum
    have hvalue : row.value = value := by rw [hrow, projectionRow]
    rw [hvalue, hexact, includedRows_eq]
    exact ((hperm.filter _).map _).sum_eq

end Results

/-! ### Orders of a site -/

theorem defaultContext_prec_pos : 0 < 28 := by decide

theorem defaultContext_emin_le : (-999999 : ℤ) ≤ 999999 := by decide

/-- The context of a thread, unless it sets another. -/
def defaultContext : DecimalContext :=
  ⟨28, -999999, 999999, defaultContext_prec_pos, defaultContext_emin_le⟩

def salesRegistry : MetricRegistry := ⟨[⟨"sales.order_value", "1.0.0"⟩], .synthetic⟩

/-- A row of an order. -/
def salesRow (order : String × Scalar) : AdapterRow :=
  [("record_ref", .scalar (.str order.1)), ("synthetic", .scalar (.bool true)),
    ("values", .mapping [("order_number", .str order.1), ("customer_number", .str "C-1"),
      ("order_date", .str "2026-01-01"), ("total_amount", order.2)])]

/-- A response with the given orders. -/
def salesResponse (orders : List (String × Scalar)) : AdapterResponse where
  status := .available
  requestId := "request-1"
  siteId := "acme"
  logicalObject := "sales_order"
  toolName := "kingdee.sales_order.get"
  synthetic := true
  rows := orders.map salesRow
  page := [("returned_rows", .int orders.length), ("limit", .int 50), ("offset", .int 0),
    ("has_more", .bool false)]
  verification := ⟨.verified, .verified, .verified, .verified⟩
  controls := ⟨0, 0, 0, 0⟩
  reasonCode := none

def salesFields (totalCount : ℕ) : InputFields where
  metricKey := "sales.order_value"
  windowStart := newYear
  windowEnd := newYear
  asOf := newYear
  retrievedAt := newYear
  checkpoint := "000001"
  totalCount := totalCount
  reconciliationReference := "ledger-1"
  reconciliationVariance := ⟨false, 0, 0⟩
  reconciliationCheckedAt := newYear
  definitionVersion := "1.0.0"

theorem salesFields_one : (salesFields 1).check.isOk = true := by decide +kernel

theorem salesFields_two : (salesFields 2).check.isOk = true := by decide +kernel

/-- Every order is governed. -/
def governedOrder (ref : String) : Option String := some ("governed:" ++ ref)

/-- What the projector makes of two orders, with SHA-256 at the document of their batch. -/
def projectTwo (orders : List (String × Scalar)) : Except ProjectorError ProjectionBatch :=
  project { Stdlib.ascii [] with
      sha256 := fun _ => "cde3fe5710c9c75252e2fa13410e8f9a69b5e2360e2a8e70468d4d989e13b2ea" }
    defaultContext salesRegistry (salesResponse orders) ⟨salesFields 2, salesFields_two⟩
    governedOrder

/-- What it makes of one. -/
def projectOne (orders : List (String × Scalar)) : Except ProjectorError ProjectionBatch :=
  project { Stdlib.ascii [] with
      sha256 := fun _ => "1930f955029b039f138a2719fba42a66d9e84a34ae680bfdb2fe0d431180b248" }
    defaultContext salesRegistry (salesResponse orders) ⟨salesFields 1, salesFields_one⟩
    governedOrder

/-- Two orders, whose sum has few digits. -/
def smallOrders : List (String × Scalar) :=
  [("SO-1", .int 100), ("SO-2", .float "250.5".toList)]

theorem smallOrders_accepted : (projectTwo smallOrders).isOk = true := by decide +kernel

/-- The recipe of the orders. -/
def salesRecipe : MetricRecipe :=
  ⟨"sales.order_value", "sales_order", "kingdee.sales_order.get", "total_amount",
    ["order_number", "customer_number", "order_date", "total_amount"]⟩

theorem smallOrders_fit :
    PartialSumsFit salesRecipe governedOrder defaultContext (smallOrders.map salesRow) := by
  intro ys hys hne
  have hordered : includedRows governedOrder (orderedRows (smallOrders.map salesRow)) =
      smallOrders.map salesRow := by decide +kernel
  rw [hordered, List.prefix_iff_eq_take] at hys
  have hlength : ys.length = 0 ∨ ys.length = 1 ∨ ys.length = 2 := by
    have hle := congrArg List.length hys
    rw [List.length_take, List.length_map] at hle
    have htwo : smallOrders.length = 2 := rfl
    omega
  rcases hlength with h | h | h <;> rw [h] at hys <;> subst hys
  · exact absurd rfl hne
  · exact ⟨100, 0, by decide +kernel, by decide +kernel, by decide +kernel, by decide +kernel⟩
  · exact ⟨3505, -1, by decide +kernel, by decide +kernel, by decide +kernel, by decide +kernel⟩

/-- An order of more digits than the context holds. -/
def largeOrder : List (String × Scalar) := [("SO-1", .int 10000000000000000000000000001)]

/-- The two orders give one batch in both orders, whose value is their sum. -/
theorem smallOrders_exact : ∃ batch row, projectTwo smallOrders = .ok batch ∧
    projectTwo smallOrders.reverse = .ok batch ∧ batch.rows = [row] ∧
    row.value.value = 350.5 := by
  obtain ⟨batch, hbatch⟩ : ∃ batch, projectTwo smallOrders = .ok batch := by
    cases h : projectTwo smallOrders with
    | error e =>
        have haccepted := smallOrders_accepted
        rw [h] at haccepted
        cases haccepted
    | ok batch => exact ⟨batch, rfl⟩
  obtain ⟨recipe, row, hrecipe, hrows, -, -, -, hperm, -, hexact⟩ := project_exact hbatch
  obtain rfl := Option.some.inj hrecipe
  refine ⟨batch, row, hbatch, ?_, hrows, ?_⟩
  · exact hperm _ ((List.reverse_perm smallOrders).map salesRow)
  · rw [hexact smallOrders_fit]
    decide +kernel

/-- A single order is rounded: its batch is accepted, and its value is not that of the order. -/
theorem largeOrder_rounded : ∃ batch row, projectOne largeOrder = .ok batch ∧ batch.rows = [row] ∧
    row.value.value ≠ exactSum salesRecipe
      ((largeOrder.map salesRow).filter (crosswalked governedOrder)) := by
  have hvalues : (projectOne largeOrder).toOption.map (fun batch => batch.rows.map (·.value)) =
      some [⟨false, 10 ^ 27, 1⟩] := by decide +kernel
  cases h : projectOne largeOrder with
  | error e =>
      rw [h] at hvalues
      cases hvalues
  | ok batch =>
      rw [h] at hvalues
      have hmap := Option.some.inj hvalues
      obtain ⟨row, hrows, hrow⟩ := List.map_eq_singleton_iff.mp hmap
      refine ⟨batch, row, rfl, hrows, ?_⟩
      rw [hrow]
      decide +kernel

end EsanGbos.Metrics
