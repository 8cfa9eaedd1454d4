import EsanGbos.Lib.Columns
import EsanGbos.Metrics.Repository

/-!
# The repository in PostgreSQL

`PostgresMetricsRepository` over the tables of batches, rows and checkpoints. Every operation is one
transaction, and transactions run one after the other. The statements name the site that row level
security asks for. The session's time zone is UTC, so a `timestamptz` comes back as a UTC datetime.

The documents of a row (its lineage, freshness, coverage and reconciliation) are written for readers
outside the repository and are left out.

## Main definitions

* `Tables` — the three tables.
* `Postgres.appendBatch`, `Postgres.findProjection`, `Postgres.checkpoint` — the operations.
* `Postgres.machine` — the repository as a machine that answers calls.
-/
namespace EsanGbos.Metrics
open Lib

/-- A row of `projection_batches`, next to its site and identifier. -/
structure BatchRow where
  sourceMode : SourceMode
  checkpoint : String
  sourceSystem : String
  transformationVersion : String
  retrievedAt : Timestamptz
  payloadDigest : String

/-- A row of `projection_rows`, next to its site and identifier. -/
structure RowRecord where
  batchId : String
  metricKey : String
  definitionVersion : String
  windowStart : Timestamptz
  windowEnd : Timestamptz
  asOf : Timestamptz
  value : Decimal
  includedCount : ℤ
  totalCount : ℤ
  reconciliationReference : String
  reconciliationVariance : Decimal
  reconciliationCheckedAt : Timestamptz
  sourceRecordRefs : List String
  governed : Bool
  payloadDigest : String

/-- A row of `checkpoints`, next to its site, mode and checkpoint. -/
structure CheckpointRow where
  batchId : String
  recordedAt : Timestamptz

structure Tables where
  batches : Dict (String × String) BatchRow := Dict.empty
  rows : Dict (String × String) RowRecord := Dict.empty
  checkpoints : Dict (String × SourceMode × String) CheckpointRow := Dict.empty

abbrev PgOp := Proc Raise Tables

/-! ## Values that a column can hold -/

/-- The text parameters of a statement. -/
def parameters (texts : List String) : Except Raise Unit :=
  if texts.all isText then .ok () else .error .dataError

def numeric (d : Decimal) : Except Raise Decimal :=
  match numericOf d with
  | some n => .ok n
  | none => .error .dataError

def bigint (i : ℤ) : Except Raise ℤ := if isBigint i then .ok i else .error .dataError

/-- A time that comes back. -/
def datetimeOf (t : Timestamptz) : Except Raise Datetime :=
  match Datetime.of? t 0 with
  | some d => .ok d
  | none => .error .dataError

namespace RowRecord

/-- The checks of the table. -/
def isAdmitted (record : RowRecord) : Bool :=
  0 ≤ record.includedCount && record.includedCount ≤ record.totalCount &&
    record.windowStart ≤ record.windowEnd && !record.sourceRecordRefs.isEmpty

end RowRecord

namespace Postgres

/-! ## Appending a batch -/

section Append
variable (py : Stdlib)

def batchRow (batch : ProjectionBatch) (batchDigest : String) : BatchRow :=
  { sourceMode := batch.sourceMode
    checkpoint := batch.checkpoint
    sourceSystem := batch.sourceSystem
    transformationVersion := batch.transformationVersion
    retrievedAt := batch.retrievedAt.instant
    payloadDigest := batchDigest }

/-- The mode of a batch of the site, the first in the order of the modes. -/
def existingMode (collation : Collation) (siteId : String) (s : Tables) : Option SourceMode :=
  (((s.batches.items.filter (·.1.1 = siteId)).map (·.2.sourceMode)).insertionSort
    fun a b => collation.le a.value b.value).head?

/-- The statement that inserts a batch, with its trigger, and the check of a conflicting one. -/
def insertBatch (batch : ProjectionBatch) (batchDigest : String) : PgOp Unit := do
  parameters [batch.sourceSystem, batch.transformationVersion]
  let s ← get
  if s.batches.items.any fun e =>
      e.1.1 = batch.siteId && e.2.sourceMode ≠ batch.sourceMode then throw .raiseException
  match s.batches.get? (batch.siteId, batch.batchId) with
  | some existing =>
      if existing.payloadDigest ≠ batchDigest then throw Memory.batchConflict
  | none =>
      if s.batches.items.any fun e => e.1.1 = batch.siteId &&
          e.2.sourceMode = batch.sourceMode && e.2.checkpoint = batch.checkpoint then
        throw .integrityError
      set { s with
        batches := s.batches.set (batch.siteId, batch.batchId) (batchRow batch batchDigest) }

/-- The record of a row. -/
def rowRecord (batchId : String) (row : ProjectionRow) : Except Raise RowRecord := do
  parameters [row.rowId, batchId, row.definitionVersion, row.reconciliationReference]
  return {
    batchId
    metricKey := row.metricKey
    definitionVersion := row.definitionVersion
    windowStart := row.windowStart.instant
    windowEnd := row.windowEnd.instant
    asOf := row.asOf.instant
    value := ← numeric row.value
    includedCount := ← bigint row.includedCount
    totalCount := ← bigint row.totalCount
    reconciliationReference := row.reconciliationReference
    reconciliationVariance := ← numeric row.reconciliationVariance
    reconciliationCheckedAt := row.reconciliationCheckedAt.instant
    sourceRecordRefs := row.sourceRecordRefs
    governed := row.governed
    payloadDigest := digest py (rowDocument row.toRowFields) }

/-- The statement that inserts a row, and the check of a conflicting one. -/
def insertRow (batch : ProjectionBatch) (row : ProjectionRow) : PgOp Unit := do
  let record ← rowRecord py batch.batchId row
  if !record.isAdmitted then throw .integrityError
  let s ← get
  match s.rows.get? (batch.siteId, row.rowId) with
  | some existing =>
      if existing.batchId ≠ batch.batchId ∨ existing.payloadDigest ≠ record.payloadDigest then
        throw (.immutableConflict "row_id was reused with different immutable content")
  | none =>
      if (s.batches.get? (batch.siteId, batch.batchId)).isNone then throw .integrityError
      set { s with rows := s.rows.set (batch.siteId, row.rowId) record }

/-- The statement that inserts a checkpoint. -/
def insertCheckpoint (batch : ProjectionBatch) : PgOp Unit :=
  modify fun s =>
    if (s.checkpoints.get? (Memory.checkpointKey batch)).isSome then s
    else { s with
      checkpoints := s.checkpoints.set (Memory.checkpointKey batch)
        ⟨batch.batchId, batch.retrievedAt.instant⟩ }

/-- `append_batch`. -/
def appendBatch (collation : Collation) (batch : ProjectionBatch) : PgOp ProjectionBatch := do
  let batchDigest ← batchDigest py batch
  Proc.atomically do
    let s ← get
    if (existingMode collation batch.siteId s).any (· ≠ batch.sourceMode) then
      throw Memory.modeConflict
    parameters [batch.batchId]
    match s.batches.get? (batch.siteId, batch.batchId) with
    | some existing =>
        if existing.payloadDigest ≠ batchDigest then throw Memory.batchConflict
        return batch
    | none =>
        parameters [batch.checkpoint]
        if (s.checkpoints.get? (Memory.checkpointKey batch)).isSome then
          throw Memory.checkpointConflict
        insertBatch batch batchDigest
        batch.rows.forM (insertRow py batch)
        insertCheckpoint batch
        return batch

end Append

/-! ## Reading -/

/-- A row joined with its batch. -/
structure Joined where
  siteId : String
  batchId : String
  batch : BatchRow
  rowId : String
  row : RowRecord

def Joined.rank (record : Joined) : Rank :=
  (record.batch.retrievedAt, [record.batchId, record.rowId])

/-- The rows joined with their batches. -/
def joined (s : Tables) : List Joined :=
  s.rows.items.filterMap fun e =>
    (s.batches.get? (e.1.1, e.2.batchId)).map fun batch =>
      ⟨e.1.1, e.2.batchId, batch, e.1.2, e.2⟩

/-- The condition of the query. -/
def isAskedFor (siteId metricKey : String) (sourceMode : SourceMode)
    (windowStart windowEnd : Timestamptz) (record : Joined) : Bool :=
  record.siteId = siteId && record.row.metricKey = metricKey &&
    record.batch.sourceMode = sourceMode && record.row.windowStart = windowStart &&
    record.row.windowEnd = windowEnd

/-- The row that a record stands for. -/
def rowOf (record : Joined) : Except Raise ProjectionRow := do
  let fields : RowFields := {
    rowId := record.rowId
    metricKey := record.row.metricKey
    windowStart := ← datetimeOf record.row.windowStart
    windowEnd := ← datetimeOf record.row.windowEnd
    asOf := ← datetimeOf record.row.asOf
    value := record.row.value
    includedCount := record.row.includedCount
    totalCount := record.row.totalCount
    reconciliationReference := record.row.reconciliationReference
    reconciliationVariance := record.row.reconciliationVariance
    reconciliationCheckedAt := ← datetimeOf record.row.reconciliationCheckedAt
    sourceRecordRefs := record.row.sourceRecordRefs
    governed := record.row.governed
    definitionVersion := record.row.definitionVersion }
  match h : fields.check with
  | .ok _ => return ⟨fields, by rw [h]; rfl⟩
  | .error e => throw e

/-- The projection that a record stands for, in a batch of one row. -/
def projectionOf (record : Joined) : Except Raise StoredProjection := do
  let row ← rowOf record
  let fields : BatchFields := {
    batchId := record.batchId
    siteId := record.siteId
    sourceMode := record.batch.sourceMode
    checkpoint := record.batch.checkpoint
    sourceSystem := record.batch.sourceSystem
    transformationVersion := record.batch.transformationVersion
    retrievedAt := ← datetimeOf record.batch.retrievedAt
    rows := [row] }
  match h : fields.check with
  | .ok _ => return ⟨⟨fields, by rw [h]; rfl⟩, row⟩
  | .error e => throw e

/-- `find_projection`. -/
def findProjection (collation : Collation) (query : ProjectionQuery) :
    PgOp (Option StoredProjection) := do
  requireIdentifier query.siteId "site_id"
  requireMetricKey query.metricKey
  let (windowStart, windowEnd) ← requireWindow query.windowStart query.windowEnd
  parameters [query.siteId]
  let asked := (joined (← getThe Tables)).filter (isAskedFor query.siteId query.metricKey
    query.sourceMode windowStart.instant windowEnd.instant)
  (greatest collation Joined.rank asked).mapM fun record => projectionOf record

/-- `checkpoint`. -/
def checkpoint (collation : Collation) (siteId : String) (sourceMode : SourceMode) :
    PgOp (Option String) := do
  requireIdentifier siteId "site_id"
  parameters [siteId]
  let recorded := (← getThe Tables).checkpoints.items.filter fun e =>
    e.1.1 = siteId && e.1.2.1 = sourceMode
  return (greatest collation (fun e => (e.2.recordedAt, [e.1.2.2])) recorded).map (·.1.2.2)

/-! ## The repository as a machine -/

def perform (py : Stdlib) (collation : Collation) : Call → PgOp Answer
  | .appendBatch batch => .batch <$> appendBatch py collation batch
  | .findProjection query => .projection <$> findProjection collation query
  | .checkpoint siteId sourceMode => .checkpoint <$> checkpoint collation siteId sourceMode

def machine (py : Stdlib) (collation : Collation) :
    Machine Tables Call (Except Raise Answer) where
  step s c := (perform py collation c).run s

end Postgres
end EsanGbos.Metrics
