import EsanGbos.Lib.Decimal
import EsanGbos.Lib.Proc
import EsanGbos.Stdlib

/-!
# Metric projections

A batch of projections carries rows of one site and one source. Values are finite decimals, which
compare by value, and their texts go into the documents that are digested. Every time is UTC.

## Main definitions

* `ProjectionRow`, `ProjectionBatch` — the records, with their checks as a field.
* `ProjectionRow.eq`, `ProjectionBatch.eq` — their equality, in which decimals compare by value.
* `batchDigest` — the digest that the database keeps; `batchDocument_injective` says that the
  document below it keeps every field.
-/
namespace EsanGbos.Metrics
open Lib

/-- An exception, by its class and text. The last three are the database's: a constraint refuses a
row, a trigger does, or a value cannot be stored. -/
inductive Raise where
  | validationError (message : String)
  | immutableConflict (message : String)
  | valueError
  | integrityError
  | raiseException
  | dataError
deriving DecidableEq, Repr

/-- Two exceptions are of one class. -/
def Raise.sameClass : Raise → Raise → Bool
  | validationError _, validationError _ => true
  | immutableConflict _, immutableConflict _ => true
  | a, b => a = b

inductive SourceMode where
  | synthetic | live
deriving DecidableEq, Repr

def SourceMode.value : SourceMode → String
  | synthetic => "synthetic"
  | live => "live"

/-! ## Checks -/

/-- `s.lower()`, as far as a word of ASCII letters other than `k` is looked for in it: no character
beyond ASCII has such a letter for its lower case. -/
def lower (s : String) : List Char := s.toList.map Char.toLower

/-- A match of `_METRIC_KEY`. -/
def isMetricKey (value : String) : Bool :=
  match value.toList with
  | [] => false
  | c :: cs => c.isLower && 2 ≤ cs.length && cs.length ≤ 79 &&
      cs.all fun c => c.isLower || c.isDigit || c == '_' || c == '.'

/-- A match of `_SITE_ID`. -/
def isSiteId (value : String) : Bool :=
  match value.toList with
  | [] => false
  | c :: cs => c.isAlphanum && cs.length ≤ 139 &&
      cs.all fun c => c.isAlphanum || c == '.' || c == '-'

/-- A match of `_SOURCE_REF`. -/
def isSourceRef (value : String) : Bool :=
  match value.toList with
  | [] => false
  | c :: cs => c.isAlphanum && cs.length ≤ 255 &&
      cs.all fun c => c.isAlphanum || ['.', '_', ':', '-'].contains c

/-- A check that raises when its condition holds. -/
def rejectIf (c : Prop) [Decidable c] (message : String) : Except Raise Unit :=
  if c then .error (.validationError message) else .ok ()

/-- `require_utc`; a naive datetime is no value. -/
def requireUtc (value : Option Datetime) (name : String) : Except Raise Datetime :=
  match value with
  | some d =>
      if d.utcoffset = 0 then .ok d
      else .error (.validationError (name ++ " must be UTC timezone-aware"))
  | none => .error (.validationError (name ++ " must be UTC timezone-aware"))

/-- `require_identifier`. -/
def requireIdentifier (value name : String) : Except Raise Unit :=
  rejectIf (isIdentifier 256 value = false)
    (name ++ " is required and must not contain outer whitespace")

/-- `require_metric_key`. -/
def requireMetricKey (value : String) : Except Raise Unit :=
  rejectIf (isMetricKey value = false) "metric_key is not a registered exact governed key"

/-- `require_window`. -/
def requireWindow (start finish : Option Datetime) : Except Raise (Datetime × Datetime) := do
  let start ← requireUtc start "window_start"
  let finish ← requireUtc finish "window_end"
  rejectIf (finish.instant < start.instant) "metric window end cannot precede its start"
  rejectIf (days 366 < finish.instant - start.instant) "metric window exceeds the 366 day maximum"
  return (start, finish)

/-! ## Rows and batches -/

/-- The fields of a row. -/
structure RowFields where
  rowId : String
  metricKey : String
  windowStart : Datetime
  windowEnd : Datetime
  asOf : Datetime
  value : Decimal
  includedCount : ℤ
  totalCount : ℤ
  reconciliationReference : String
  reconciliationVariance : Decimal
  reconciliationCheckedAt : Datetime
  sourceRecordRefs : List String
  governed : Bool
  definitionVersion : String
deriving DecidableEq

/-- `ProjectionRow.__post_init__`; every decimal of the model is finite. -/
def RowFields.check (row : RowFields) : Except Raise Unit := do
  requireIdentifier row.rowId "row_id"
  requireMetricKey row.metricKey
  let _ ← requireWindow (some row.windowStart) (some row.windowEnd)
  let _ ← requireUtc (some row.asOf) "as_of"
  let _ ← requireUtc (some row.reconciliationCheckedAt) "reconciliation_checked_at"
  requireIdentifier row.definitionVersion "definition_version"
  requireIdentifier row.reconciliationReference "reconciliation_reference"
  rejectIf (row.includedCount < 0 ∨ row.totalCount < 0) "coverage counts must be non-negative"
  rejectIf (row.totalCount < row.includedCount) "included_count cannot exceed total_count"
  rejectIf (row.sourceRecordRefs = [] ∨ ¬row.sourceRecordRefs.Nodup)
    "source_record_refs must be non-empty and unique"
  rejectIf (row.sourceRecordRefs.all isSourceRef = false) "source_record_ref is invalid"

structure ProjectionRow extends RowFields where
  valid : toRowFields.check.isOk = true
deriving DecidableEq

/-- The fields of a batch. -/
structure BatchFields where
  batchId : String
  siteId : String
  sourceMode : SourceMode
  checkpoint : String
  sourceSystem : String
  transformationVersion : String
  retrievedAt : Datetime
  rows : List ProjectionRow
deriving DecidableEq

/-- `ProjectionBatch.__post_init__`. -/
def BatchFields.check (batch : BatchFields) : Except Raise Unit := do
  requireIdentifier batch.batchId "batch_id"
  requireIdentifier batch.checkpoint "checkpoint"
  requireIdentifier batch.sourceSystem "source_system"
  requireIdentifier batch.transformationVersion "transformation_version"
  rejectIf (isSiteId batch.siteId = false) "site_id is invalid"
  let _ ← requireUtc (some batch.retrievedAt) "retrieved_at"
  rejectIf (batch.rows = []) "projection batch must contain rows"
  rejectIf (¬(batch.rows.map (·.rowId)).Nodup)
    "projection row ids must be unique within a batch"
  rejectIf (containsText "synthetic".toList (lower batch.sourceSystem) ≠
    decide (batch.sourceMode = .synthetic))
    "synthetic and live projection modes are mutually exclusive"

structure ProjectionBatch extends BatchFields where
  valid : toBatchFields.check.isOk = true
deriving DecidableEq

structure StoredProjection where
  batch : ProjectionBatch
  row : ProjectionRow
deriving DecidableEq

/-! ## What the checks say -/

section Checks
variable {c : Prop} [Decidable c] {message : String} {value start finish d : Datetime}

theorem rejectIf_eq_ok {u : Unit} : rejectIf c message = .ok u ↔ ¬c := by
  unfold rejectIf
  split <;> simp_all

theorem requireUtc_eq_ok : requireUtc (some value) message = .ok d ↔
    value.utcoffset = 0 ∧ value = d := by
  simp only [requireUtc]
  split <;> simp_all

theorem requireWindow_eq_ok {window : Datetime × Datetime} :
    requireWindow (some start) (some finish) = .ok window ↔ start.utcoffset = 0 ∧
      finish.utcoffset = 0 ∧ start.instant ≤ finish.instant ∧
      finish.instant - start.instant ≤ days 366 ∧ (start, finish) = window := by
  simp only [requireWindow, Proc.bind_eq_ok, requireUtc_eq_ok, rejectIf_eq_ok, not_lt]
  constructor
  · rintro ⟨_, ⟨hstart, rfl⟩, _, ⟨hfinish, rfl⟩, _, hle, _, hmax, hpure⟩
    exact ⟨hstart, hfinish, hle, hmax, Except.ok.inj hpure⟩
  · rintro ⟨hstart, hfinish, hle, hmax, hwindow⟩
    exact ⟨_, ⟨hstart, rfl⟩, _, ⟨hfinish, rfl⟩, (), hle, (), hmax, congrArg _ hwindow⟩

theorem exists_eq_ok {x : Except Raise Unit} (h : x.isOk = true) : ∃ u, x = .ok u := by
  cases x with
  | error e => cases h
  | ok u => exact ⟨u, rfl⟩

theorem ProjectionRow.utc (row : ProjectionRow) :
    row.windowStart.utcoffset = 0 ∧ row.windowEnd.utcoffset = 0 ∧ row.asOf.utcoffset = 0 ∧
      row.reconciliationCheckedAt.utcoffset = 0 := by
  obtain ⟨u, hcheck⟩ := exists_eq_ok row.valid
  simp only [RowFields.check, Proc.bind_eq_ok, requireIdentifier, requireMetricKey, rejectIf_eq_ok,
    requireUtc_eq_ok, requireWindow_eq_ok, exists_const] at hcheck
  obtain ⟨-, -, _, ⟨hstart, hfinish, -⟩, _, ⟨hasOf, -⟩, _, ⟨hchecked, -⟩, -⟩ := hcheck
  exact ⟨hstart, hfinish, hasOf, hchecked⟩

/-- What the table checks again. -/
theorem ProjectionRow.consistent (row : ProjectionRow) :
    row.windowStart.instant ≤ row.windowEnd.instant ∧ 0 ≤ row.includedCount ∧
      row.includedCount ≤ row.totalCount ∧ row.sourceRecordRefs ≠ [] := by
  obtain ⟨u, hcheck⟩ := exists_eq_ok row.valid
  simp only [RowFields.check, Proc.bind_eq_ok, requireIdentifier, requireMetricKey, rejectIf_eq_ok,
    requireUtc_eq_ok, requireWindow_eq_ok, not_or, not_lt, exists_const] at hcheck
  obtain ⟨-, -, _, ⟨-, -, hwindow, -⟩, _, -, _, -, -, -, ⟨hincluded, -⟩, htotal, ⟨hrefs, -⟩, -⟩ :=
    hcheck
  exact ⟨hwindow, hincluded, htotal, hrefs⟩

theorem ProjectionBatch.retrievedAt_utc (batch : ProjectionBatch) :
    batch.retrievedAt.utcoffset = 0 := by
  obtain ⟨u, hcheck⟩ := exists_eq_ok batch.valid
  simp only [BatchFields.check, Proc.bind_eq_ok, requireIdentifier, rejectIf_eq_ok,
    requireUtc_eq_ok, exists_const] at hcheck
  obtain ⟨-, -, -, -, -, _, ⟨hutc, -⟩, -⟩ := hcheck
  exact hutc

theorem ProjectionBatch.nodup_rowId (batch : ProjectionBatch) :
    (batch.rows.map (·.rowId)).Nodup := by
  obtain ⟨u, hcheck⟩ := exists_eq_ok batch.valid
  simp only [BatchFields.check, Proc.bind_eq_ok, requireIdentifier, rejectIf_eq_ok,
    requireUtc_eq_ok, not_not, exists_const] at hcheck
  obtain ⟨-, -, -, -, -, _, -, -, hnodup, -⟩ := hcheck
  exact hnodup

/-- A batch with other rows passes its checks again, where these have an identifier each. -/
theorem BatchFields.check_rows {batch : BatchFields} (h : batch.check.isOk = true)
    {rows : List ProjectionRow} (hrows : rows ≠ []) (hnodup : (rows.map (·.rowId)).Nodup) :
    BatchFields.check { batch with rows } = .ok () := by
  obtain ⟨u, hcheck⟩ := exists_eq_ok h
  simp only [BatchFields.check, Proc.bind_eq_ok, requireIdentifier, rejectIf_eq_ok,
    requireUtc_eq_ok, not_not, exists_const] at hcheck ⊢
  obtain ⟨hid, hcheckpoint, hsystem, hversion, hsite, d, hutc, -, -, hmode⟩ := hcheck
  exact ⟨hid, hcheckpoint, hsystem, hversion, hsite, d, hutc, hrows, hnodup, hmode⟩

end Checks

/-! ## Equality -/

/-- `==` of two rows. -/
def RowFields.eq (row row' : RowFields) : Bool :=
  row.value.eq row'.value && row.reconciliationVariance.eq row'.reconciliationVariance &&
    row.windowStart.instant = row'.windowStart.instant &&
    row.windowEnd.instant = row'.windowEnd.instant && row.asOf.instant = row'.asOf.instant &&
    row.reconciliationCheckedAt.instant = row'.reconciliationCheckedAt.instant &&
    row.rowId = row'.rowId && row.metricKey = row'.metricKey &&
    row.includedCount = row'.includedCount && row.totalCount = row'.totalCount &&
    row.reconciliationReference = row'.reconciliationReference &&
    row.sourceRecordRefs = row'.sourceRecordRefs && row.governed = row'.governed &&
    row.definitionVersion = row'.definitionVersion

/-- `==` of two batches. -/
def ProjectionBatch.eq (batch batch' : ProjectionBatch) : Bool :=
  batch.batchId = batch'.batchId && batch.siteId = batch'.siteId &&
    batch.sourceMode = batch'.sourceMode && batch.checkpoint = batch'.checkpoint &&
    batch.sourceSystem = batch'.sourceSystem &&
    batch.transformationVersion = batch'.transformationVersion &&
    batch.retrievedAt.instant = batch'.retrievedAt.instant &&
    batch.rows.length = batch'.rows.length &&
    (batch.rows.zip batch'.rows).all fun rows => rows.1.eq rows.2.toRowFields

@[simp] theorem RowFields.eq_self (row : RowFields) : row.eq row = true := by simp [RowFields.eq]

@[simp] theorem ProjectionBatch.eq_self (batch : ProjectionBatch) : batch.eq batch = true := by
  have hrows : ∀ rows : List ProjectionRow,
      (rows.zip rows).all (fun rows => rows.1.eq rows.2.toRowFields) = true := by
    intro rows
    induction rows with
    | nil => rfl
    | cons row rows ih => simp [ih]
  simp [ProjectionBatch.eq, hrows]

/-! ## Documents -/

/-- `_row_document`, with its keys in order. -/
def rowDocument (row : RowFields) : Json :=
  .obj [("as_of", .str (String.ofList row.asOf.isoformat)),
    ("definition_version", .str row.definitionVersion), ("governed", .bool row.governed),
    ("included_count", .int row.includedCount), ("metric_key", .str row.metricKey),
    ("reconciliation_checked_at", .str (String.ofList row.reconciliationCheckedAt.isoformat)),
    ("reconciliation_reference", .str row.reconciliationReference),
    ("reconciliation_variance", .str (String.ofList row.reconciliationVariance.text)),
    ("row_id", .str row.rowId), ("source_record_refs", Json.ofStrs row.sourceRecordRefs),
    ("total_count", .int row.totalCount), ("value", .str (String.ofList row.value.text)),
    ("window_end", .str (String.ofList row.windowEnd.isoformat)),
    ("window_start", .str (String.ofList row.windowStart.isoformat))]

/-- `_batch_document`, with its keys in order. -/
def batchDocument (batch : ProjectionBatch) : Json :=
  .obj [("batch_id", .str batch.batchId), ("checkpoint", .str batch.checkpoint),
    ("retrieved_at", .str (String.ofList batch.retrievedAt.isoformat)),
    ("rows", .arr (batch.rows.map fun row => rowDocument row.toRowFields)),
    ("site_id", .str batch.siteId), ("source_mode", .str batch.sourceMode.value),
    ("source_system", .str batch.sourceSystem),
    ("transformation_version", .str batch.transformationVersion)]

theorem SourceMode.value_injective : Function.Injective value := by
  intro mode mode' h
  cases mode <;> cases mode' <;> simp_all [value]

/-- The document of a row keeps every field, the digits of its decimals included. -/
theorem rowDocument_injective : Function.Injective rowDocument := by
  intro row row' h
  simp only [rowDocument, Json.obj.injEq, List.cons.injEq, Prod.mk.injEq, Json.str.injEq,
    Json.int.injEq, Json.bool.injEq, String.ofList_inj, Datetime.isoformat_injective.eq_iff,
    Decimal.text_injective.eq_iff, Json.ofStrs_injective.eq_iff, true_and, and_true] at h
  cases row
  simp_all

theorem batchDocument_injective : Function.Injective batchDocument := by
  intro batch batch' h
  simp only [batchDocument, Json.obj.injEq, List.cons.injEq, Prod.mk.injEq, Json.str.injEq,
    Json.arr.injEq, String.ofList_inj, Datetime.isoformat_injective.eq_iff,
    SourceMode.value_injective.eq_iff, true_and, and_true] at h
  have hrow : Function.Injective fun row : ProjectionRow => rowDocument row.toRowFields := by
    intro row row' hrow
    cases row
    cases row'
    simpa using rowDocument_injective hrow
  have hrows := List.map_injective_iff.mpr hrow h.2.2.2.1
  cases batch with
  | mk fields valid =>
      cases batch'
      cases fields
      simp_all

/-- `_digest`. -/
def digest (py : Stdlib) (document : Json) : String := py.sha256 document.dumpsAscii

/-- The digest of a batch. A count of more than 4300 digits has no text. -/
def batchDigest (py : Stdlib) (batch : ProjectionBatch) : Except Raise String :=
  if batch.rows.all fun row => row.totalCount < 10 ^ 4300 then
    .ok (digest py (batchDocument batch))
  else .error .valueError

end EsanGbos.Metrics
