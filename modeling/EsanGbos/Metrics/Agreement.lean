import EsanGbos.Metrics.Postgres

/-!
# Where the two repositories agree

The tables hold the batches that the dictionaries hold, in the order they arrived. The two sides
still part ways: the dictionaries compare batches by value and the tables by the digest of their
texts, they remember the checkpoint that arrived last where the tables look for the one retrieved
last, and they check neither arguments nor values that no column can hold.

## Main definitions

* `Simulates` — the tables stand for the dictionaries.
* `Call.isSafe` — the condition under which a call is answered alike.
* `Memory.run_agrees` — runs of such calls are answered alike; `arrival_disagrees` is a run of valid
  batches that is not.
-/
namespace EsanGbos.Metrics
open Lib

/-! ## Values that can be stored -/

/-- Every value of the row fits its column. -/
def ProjectionRow.isStorable (row : ProjectionRow) : Bool :=
  [row.rowId, row.definitionVersion, row.reconciliationReference].all isText &&
    isBigint row.totalCount && (numericOf row.value).isSome &&
    (numericOf row.reconciliationVariance).isSome

def ProjectionBatch.isStorable (batch : ProjectionBatch) : Bool :=
  [batch.batchId, batch.checkpoint, batch.sourceSystem, batch.transformationVersion].all isText &&
    batch.rows.all (·.isStorable)

/-- The record of a row. -/
def encodeRow (py : Stdlib) (batchId : String) (row : ProjectionRow) : RowRecord :=
  { batchId
    metricKey := row.metricKey
    definitionVersion := row.definitionVersion
    windowStart := row.windowStart.instant
    windowEnd := row.windowEnd.instant
    asOf := row.asOf.instant
    value := (numericOf row.value).getD row.value
    includedCount := row.includedCount
    totalCount := row.totalCount
    reconciliationReference := row.reconciliationReference
    reconciliationVariance := (numericOf row.reconciliationVariance).getD row.reconciliationVariance
    reconciliationCheckedAt := row.reconciliationCheckedAt.instant
    sourceRecordRefs := row.sourceRecordRefs
    governed := row.governed
    payloadDigest := digest py (rowDocument row.toRowFields) }

/-- The record of a batch. -/
def encodeBatch (py : Stdlib) (batch : ProjectionBatch) : BatchRow :=
  Postgres.batchRow batch (digest py (batchDocument batch))

section Storable
variable {py : Stdlib} {batch : ProjectionBatch} {row : ProjectionRow}

theorem numeric_ok {d : Decimal} (h : (numericOf d).isSome = true) :
    numeric d = .ok ((numericOf d).getD d) := by
  obtain ⟨n, hn⟩ := Option.isSome_iff_exists.mp h
  rw [numeric, hn, Option.getD_some]

theorem rowRecord_ok {batchId : String} (hid : isText batchId = true) (h : row.isStorable = true) :
    Postgres.rowRecord py batchId row = .ok (encodeRow py batchId row) := by
  obtain ⟨-, hincluded, htotal, -⟩ := row.consistent
  simp only [ProjectionRow.isStorable, List.all_cons, List.all_nil, Bool.and_true,
    Bool.and_eq_true, isBigint, decide_eq_true_eq] at h
  obtain ⟨⟨⟨⟨hrow, hversion, href⟩, hbig⟩, hvalue⟩, hvariance⟩ := h
  have hparameters : parameters
      [row.rowId, batchId, row.definitionVersion, row.reconciliationReference] = .ok () := by
    rw [parameters]
    simp [hid, hrow, hversion, href]
  have hbigs : bigint row.totalCount = .ok row.totalCount ∧
      bigint row.includedCount = .ok row.includedCount := by
    simp only [bigint, isBigint, Bool.and_eq_true, decide_eq_true_eq]
    exact ⟨if_pos hbig, if_pos (by omega)⟩
  simp only [Postgres.rowRecord, hparameters, numeric_ok hvalue, numeric_ok hvariance, hbigs,
    Proc.ok_bind]
  rfl

theorem isAdmitted_encodeRow (batchId : String) : (encodeRow py batchId row).isAdmitted = true := by
  obtain ⟨hwindow, hincluded, htotal, hrefs⟩ := row.consistent
  simp [RowRecord.isAdmitted, encodeRow, hwindow, hincluded, htotal, hrefs]

theorem batchDigest_ok (h : batch.isStorable = true) :
    batchDigest py batch = .ok (digest py (batchDocument batch)) := by
  have hlimit : (2 : ℤ) ^ 63 ≤ 10 ^ 4300 :=
    le_trans (by norm_num : (2 : ℤ) ^ 63 ≤ 10 ^ 19) (pow_le_pow_right₀ (by decide) (by decide))
  refine if_pos ?_
  rw [List.all_eq_true]
  intro row hrow
  simp only [ProjectionBatch.isStorable, Bool.and_eq_true, List.all_eq_true] at h
  have hstorable := h.2 row hrow
  simp only [ProjectionRow.isStorable, Bool.and_eq_true, isBigint, decide_eq_true_eq] at hstorable
  exact decide_eq_true (lt_of_lt_of_le hstorable.1.1.2.2 hlimit)

end Storable

/-! ## Records are read back -/

section ReadBack
variable {py : Stdlib} {batch : ProjectionBatch} {row : ProjectionRow}

theorem datetimeOf_instant {d : Datetime} (h : d.utcoffset = 0) : datetimeOf d.instant = .ok d := by
  have hof : Datetime.of? d.instant 0 = some d := by rw [← h]; exact d.of?_self
  rw [datetimeOf, hof]

/-- A row joined with its batch. -/
def encodeJoined (py : Stdlib) (found : StoredProjection) : Postgres.Joined :=
  ⟨found.batch.siteId, found.batch.batchId, encodeBatch py found.batch, found.row.rowId,
    encodeRow py found.batch.batchId found.row⟩

/-- The row that is read back has the decimals of the columns, and equals the row. -/
theorem rowOf_encodeJoined (py : Stdlib) {found : StoredProjection}
    (h : found.row.isStorable = true) :
    ∃ row, Postgres.rowOf (encodeJoined py found) = .ok row ∧
      found.row.eq row.toRowFields = true := by
  obtain ⟨hstart, hfinish, hasOf, hchecked⟩ := found.row.utc
  have hstart : datetimeOf (encodeJoined py found).row.windowStart = .ok found.row.windowStart :=
    datetimeOf_instant hstart
  have hfinish : datetimeOf (encodeJoined py found).row.windowEnd = .ok found.row.windowEnd :=
    datetimeOf_instant hfinish
  have hasOf : datetimeOf (encodeJoined py found).row.asOf = .ok found.row.asOf :=
    datetimeOf_instant hasOf
  have hchecked : datetimeOf (encodeJoined py found).row.reconciliationCheckedAt =
      .ok found.row.reconciliationCheckedAt := datetimeOf_instant hchecked
  simp only [ProjectionRow.isStorable, Bool.and_eq_true] at h
  obtain ⟨n, hn⟩ := Option.isSome_iff_exists.mp h.1.2
  obtain ⟨m, hm⟩ := Option.isSome_iff_exists.mp h.2
  have hvalue : (encodeJoined py found).row.value = n := by
    simp [encodeJoined, encodeRow, hn]
  have hvariance : (encodeJoined py found).row.reconciliationVariance = m := by
    simp [encodeJoined, encodeRow, hm]
  simp only [Postgres.rowOf, hstart, hfinish, hasOf, hchecked, hvalue, hvariance, Proc.ok_bind]
  split
  next hok =>
    refine ⟨_, rfl, ?_⟩
    have hdecimals := And.intro (numericOf_eq hn) (numericOf_eq hm)
    simp [RowFields.eq, hdecimals, encodeJoined, encodeRow]
  next e herror =>
    -- the checks read no decimal
    have hcheck := found.row.valid
    change found.row.check = .error e at herror
    rw [herror] at hcheck
    cases hcheck

theorem projectionOf_encodeJoined (py : Stdlib) {found : StoredProjection}
    (h : found.row.isStorable = true) :
    ∃ projection, Postgres.projectionOf (encodeJoined py found) = .ok projection ∧
      found.row.eq projection.row.toRowFields = true := by
  obtain ⟨row, hrow, heq⟩ := rowOf_encodeJoined py h
  have hretrieved : datetimeOf (encodeJoined py found).batch.retrievedAt =
      .ok found.batch.retrievedAt := datetimeOf_instant found.batch.retrievedAt_utc
  simp only [Postgres.projectionOf, hrow, hretrieved, Proc.ok_bind]
  split
  next hok => exact ⟨_, rfl, heq⟩
  next e herror =>
    have hcheck := BatchFields.check_rows found.batch.valid (List.cons_ne_nil row [])
      (List.nodup_singleton _)
    cases hcheck.symm.trans herror

end ReadBack

/-! ## The dictionaries -/

namespace Memory

/-- Every row that was accepted, with its batch. -/
def projections (s : Memory) : List StoredProjection :=
  s.accepted.flatMap fun batch => batch.rows.map fun row => ⟨batch, row⟩

/-- The batches of a site and mode. -/
def arrived (s : Memory) (siteId : String) (sourceMode : SourceMode) : List ProjectionBatch :=
  s.accepted.filter fun batch => batch.siteId = siteId && batch.sourceMode = sourceMode

/-- The four dictionaries say what the accepted batches say. -/
structure Consistent (s : Memory) : Prop where
  keys : ∀ e ∈ s.batches.items, e.1 = (e.2.siteId, e.2.batchId)
  rowIds : s.rowIds.items =
    s.projections.map fun p => ((p.batch.siteId, p.row.rowId), (p.batch.batchId, p.row))
  checkpointBatches : s.checkpointBatches.items =
    s.accepted.map fun batch => (checkpointKey batch, batch.batchId)
  checkpoints : ∀ siteId sourceMode, s.checkpoints.get? (siteId, sourceMode) =
    (s.arrived siteId sourceMode).getLast?.map (·.checkpoint)
  modes : ∀ batch ∈ s.accepted, ∀ batch' ∈ s.accepted, batch.siteId = batch'.siteId →
    batch.sourceMode = batch'.sourceMode
  storable : ∀ batch ∈ s.accepted, batch.isStorable = true

theorem consistent_empty : Consistent {} where
  keys _ he := by cases he
  rowIds := rfl
  checkpointBatches := rfl
  checkpoints _ _ := rfl
  modes _ h := by cases h
  storable _ h := by cases h

section Consistent
variable {s : Memory} {batch : ProjectionBatch} (h : Consistent s)

/-- The checks of `append_batch`. -/
structure Accepts (s : Memory) (batch : ProjectionBatch) : Prop where
  fresh : s.batches.get? (batch.siteId, batch.batchId) = none
  mode : ∀ existing ∈ s.accepted, existing.siteId = batch.siteId →
    existing.sourceMode = batch.sourceMode
  checkpoint : s.checkpointBatches.get? (checkpointKey batch) = none
  rows : ∀ row ∈ batch.rows, s.rowIds.get? (batch.siteId, row.rowId) = none

theorem accepted_recorded (hfresh : s.batches.get? (batch.siteId, batch.batchId) = none) :
    (s.recorded batch).accepted = s.accepted ++ [batch] := by
  change (s.batches.set (batch.siteId, batch.batchId) batch).items.map Prod.snd = _
  rw [Dict.items_set_of_notMem (Dict.notMem_keys hfresh), List.map_append]
  rfl

theorem projections_recorded (hfresh : s.batches.get? (batch.siteId, batch.batchId) = none) :
    (s.recorded batch).projections =
      s.projections ++ batch.rows.map fun row => ⟨batch, row⟩ := by
  rw [projections, accepted_recorded hfresh, List.flatMap_append, List.flatMap_singleton]
  rfl

theorem rowIds_recorded : (s.recorded batch).rowIds =
    (batch.rows.map fun row => ((batch.siteId, row.rowId), (batch.batchId, row))).foldl
      (fun rowIds e => rowIds.set e.1 e.2) s.rowIds := by
  rw [List.foldl_map]
  rfl

/-- The rows of a batch go last, where their identifiers are new. -/
theorem items_rowIds_recorded
    (hrows : ∀ row ∈ batch.rows, s.rowIds.get? (batch.siteId, row.rowId) = none) :
    (s.recorded batch).rowIds.items = s.rowIds.items ++
      batch.rows.map fun row => ((batch.siteId, row.rowId), (batch.batchId, row)) := by
  rw [rowIds_recorded, Dict.items_foldl_set]
  rw [List.map_append, List.nodup_append]
  refine ⟨s.rowIds.nodup_items, ?_, ?_⟩
  · have hinj : Function.Injective (Prod.mk batch.siteId : String → String × String) :=
      fun a b hab => (Prod.mk.inj hab).2
    have hnodup := batch.nodup_rowId.map hinj
    rw [List.map_map] at hnodup
    rw [List.map_map]
    exact hnodup
  · rintro k hk _ hk' rfl
    obtain ⟨e, he, rfl⟩ := List.mem_map.mp hk'
    obtain ⟨row, hrow, rfl⟩ := List.mem_map.mp he
    exact Dict.notMem_keys (hrows row hrow) hk

include h

theorem get?_eq_some {key : String × String} : s.batches.get? key = some batch ↔
    batch ∈ s.accepted ∧ key = (batch.siteId, batch.batchId) := by
  rw [← Dict.mem_items]
  constructor
  · intro hmem
    exact ⟨List.mem_map.mpr ⟨_, hmem, rfl⟩, h.keys _ hmem⟩
  · rintro ⟨hmem, rfl⟩
    obtain ⟨e, he, rfl⟩ := List.mem_map.mp hmem
    rw [← h.keys e he]
    exact he

/-- A batch that passes the checks keeps the dictionaries consistent. -/
theorem Consistent.recorded (hstorable : batch.isStorable = true) (haccepts : Accepts s batch) :
    Consistent (s.recorded batch) := by
  have haccepted := accepted_recorded haccepts.fresh
  have hmem : ∀ {b}, b ∈ (s.recorded batch).accepted ↔ b ∈ s.accepted ∨ b = batch := by
    intro b
    rw [haccepted, List.mem_append, List.mem_singleton]
  constructor
  · intro e he
    have hitems : (s.recorded batch).batches.items =
        s.batches.items ++ [((batch.siteId, batch.batchId), batch)] :=
      Dict.items_set_of_notMem (Dict.notMem_keys haccepts.fresh)
    rw [hitems, List.mem_append, List.mem_singleton] at he
    rcases he with he | rfl
    · exact h.keys e he
    · rfl
  · rw [projections_recorded haccepts.fresh, List.map_append, ← h.rowIds, List.map_map]
    exact items_rowIds_recorded haccepts.rows
  · rw [haccepted, List.map_append, ← h.checkpointBatches]
    exact Dict.items_set_of_notMem (Dict.notMem_keys haccepts.checkpoint)
  · intro siteId sourceMode
    rw [arrived, haccepted, List.filter_append]
    change (s.checkpoints.set (batch.siteId, batch.sourceMode) batch.checkpoint).get?
      (siteId, sourceMode) = _
    rw [Dict.get?_set]
    by_cases hkey : (siteId, sourceMode) = (batch.siteId, batch.sourceMode)
    · obtain ⟨rfl, rfl⟩ := Prod.mk.inj hkey
      simp
    · have hnot : ¬(batch.siteId = siteId ∧ batch.sourceMode = sourceMode) := by
        rintro ⟨rfl, rfl⟩
        exact hkey rfl
      rw [if_neg hkey, h.checkpoints, arrived]
      simp [hnot]
  · intro b hb b' hb' hsite
    rcases hmem.mp hb with hold | rfl <;> rcases hmem.mp hb' with hold' | rfl
    · exact h.modes b hold b' hold' hsite
    · exact haccepts.mode b hold hsite
    · exact (haccepts.mode b' hold' hsite.symm).symm
    · rfl
  · intro b hb
    rcases hmem.mp hb with hold | rfl
    · exact h.storable b hold
    · exact hstorable

end Consistent
end Memory

/-! ## The tables -/

/-- The row of a checkpoint, with its key. -/
def checkpointEntry (batch : ProjectionBatch) : (String × SourceMode × String) × CheckpointRow :=
  (Memory.checkpointKey batch, ⟨batch.batchId, batch.retrievedAt.instant⟩)

/-- The tables stand for the dictionaries. -/
structure Simulates (py : Stdlib) (s : Memory) (t : Tables) : Prop where
  consistent : s.Consistent
  batches : t.batches = s.batches.map (encodeBatch py)
  rows : t.rows = s.rowIds.map fun v => encodeRow py v.1 v.2
  checkpoints : t.checkpoints.items = s.accepted.map checkpointEntry

theorem simulates_empty (py : Stdlib) : Simulates py {} {} :=
  ⟨Memory.consistent_empty, rfl, rfl, rfl⟩

section Simulates
variable {py : Stdlib} {collation : Collation} {s : Memory} {t : Tables} {batch : ProjectionBatch}

/-- The tables with one batch more. -/
def Tables.recorded (py : Stdlib) (t : Tables) (batch : ProjectionBatch) : Tables where
  batches := t.batches.set (batch.siteId, batch.batchId) (encodeBatch py batch)
  rows := (batch.rows.map fun row =>
    ((batch.siteId, row.rowId), encodeRow py batch.batchId row)).foldl
      (fun rows e => rows.set e.1 e.2) t.rows
  checkpoints := t.checkpoints.set (Memory.checkpointKey batch)
    ⟨batch.batchId, batch.retrievedAt.instant⟩

variable (h : Simulates py s t)
include h

/-- A checkpoint is in the table when it is in the dictionary. -/
theorem Simulates.get?_checkpoints (key : String × SourceMode × String) :
    (t.checkpoints.get? key).isSome = (s.checkpointBatches.get? key).isSome := by
  have hsame : s.checkpointBatches = t.checkpoints.map CheckpointRow.batchId := by
    apply Dict.ext
    rw [Dict.items_map, h.checkpoints, h.consistent.checkpointBatches, List.map_map]
    rfl
  rw [hsame, Dict.get?_map, Option.isSome_map]

theorem Simulates.recorded (hstorable : batch.isStorable = true)
    (haccepts : Memory.Accepts s batch) :
    Simulates py (s.recorded batch) (t.recorded py batch) := by
  have hcheckpoint : t.checkpoints.get? (Memory.checkpointKey batch) = none := by
    rw [← Option.not_isSome_iff_eq_none, h.get?_checkpoints, haccepts.checkpoint]
    decide
  constructor
  · exact h.consistent.recorded hstorable haccepts
  · change t.batches.set _ _ = (s.batches.set _ _).map _
    rw [Dict.map_set, h.batches]
  · change List.foldl _ _ _ = _
    rw [Memory.rowIds_recorded, Dict.map_foldl_set, h.rows, List.map_map]
    rfl
  · change (t.checkpoints.set _ _).items = _
    rw [Dict.items_set_of_notMem (Dict.notMem_keys hcheckpoint), h.checkpoints,
      Memory.accepted_recorded haccepts.fresh, List.map_append]
    rfl

/-- The modes of a site in the table. -/
theorem Simulates.batches_any (p : (String × String) × SourceMode × String → Bool) :
    t.batches.items.any (fun e => p (e.1, e.2.sourceMode, e.2.checkpoint)) =
      s.accepted.any fun b => p ((b.siteId, b.batchId), b.sourceMode, b.checkpoint) := by
  rw [h.batches, Dict.items_map, List.any_map, Memory.accepted, Dict.values, List.any_map]
  change s.batches.items.any _ = s.batches.items.any _
  rw [Bool.eq_iff_iff, List.any_eq_true, List.any_eq_true]
  constructor
  all_goals
    rintro ⟨e, he, hp⟩
    refine ⟨e, he, ?_⟩
    have hkey := h.consistent.keys e he
    simp only [Function.comp_apply, hkey] at hp ⊢
    exact hp

/-- The mode that the table names is one of the site's, if it has any. -/
theorem Simulates.mem_modes {siteId : String} {mode : SourceMode} :
    mode ∈ (t.batches.items.filter (·.1.1 = siteId)).map (·.2.sourceMode) ↔
      ∃ b ∈ s.accepted, b.siteId = siteId ∧ b.sourceMode = mode := by
  have hany := h.batches_any fun e => e.1.1 = siteId && e.2.1 = mode
  rw [Bool.eq_iff_iff, List.any_eq_true, List.any_eq_true] at hany
  simp only [Bool.and_eq_true, decide_eq_true_eq] at hany
  simp only [List.mem_map, List.mem_filter, decide_eq_true_eq, and_assoc]
  exact hany

/-- The table says of the mode of a site what the dictionary says. -/
theorem Simulates.existingMode (siteId : String) (sourceMode : SourceMode) :
    (Postgres.existingMode collation siteId t).any (· ≠ sourceMode) =
      s.accepted.any fun b => b.siteId = siteId && b.sourceMode ≠ sourceMode := by
  have hmodes := fun mode => @Simulates.mem_modes _ _ _ h siteId mode
  rw [Bool.eq_iff_iff, List.any_eq_true]
  simp only [Option.any_eq_true, Bool.and_eq_true, decide_eq_true_eq]
  constructor
  · rintro ⟨mode, hmode, hne⟩
    obtain ⟨b, hb, hsite, rfl⟩ := (hmodes mode).mp (mem_of_head?_insertionSort hmode)
    exact ⟨b, hb, hsite, hne⟩
  · rintro ⟨b, hb, hsite, hne⟩
    obtain ⟨mode, hmode⟩ := exists_head?_insertionSort
      (r := fun a b : SourceMode => collation.le a.value b.value = true)
      ((hmodes b.sourceMode).mpr ⟨b, hb, hsite, rfl⟩)
    obtain ⟨b', hb', hsite', rfl⟩ := (hmodes mode).mp (mem_of_head?_insertionSort hmode)
    refine ⟨b'.sourceMode, hmode, ?_⟩
    rw [h.consistent.modes b' hb' b hb (hsite'.trans hsite.symm)]
    exact hne

end Simulates

/-! ## Appending -/

section Append
variable {py : Stdlib} {collation : Collation} {s : Memory} {t : Tables} {batch : ProjectionBatch}

theorem run_appendBatch (s : Memory) (batch : ProjectionBatch) :
    (Memory.appendBatch batch).run s =
      match s.batches.get? (batch.siteId, batch.batchId) with
      | some existing =>
          if existing.eq batch then (.ok existing, s) else (.error Memory.batchConflict, s)
      | none =>
          if s.accepted.any fun existing =>
              existing.siteId = batch.siteId && existing.sourceMode ≠ batch.sourceMode then
            (.error Memory.modeConflict, s)
          else if (s.checkpointBatches.get? (Memory.checkpointKey batch)).isSome then
            (.error Memory.checkpointConflict, s)
          else if batch.rows.any fun row =>
              (s.rowIds.get? (batch.siteId, row.rowId)).isSome then
            (.error (.immutableConflict "row_id was already used by another immutable batch"), s)
          else (.ok batch, s.recorded batch) := by
  rw [Memory.appendBatch, Proc.run_get_bind]
  cases s.batches.get? (batch.siteId, batch.batchId) with
  | some existing =>
      dsimp only
      cases existing.eq batch <;> rfl
  | none =>
      dsimp only
      split
      next => rfl
      next =>
        split
        next => rfl
        next => split <;> rfl

theorem isText_of_mem {texts : List String} (h : texts.all isText = true) :
    parameters texts = .ok () := if_pos h

/-- A batch with a new identifier and checkpoint is inserted. -/
theorem run_insertBatch {batchDigest : String}
    (htexts : [batch.sourceSystem, batch.transformationVersion].all isText = true)
    (hmode : (t.batches.items.any fun e =>
      e.1.1 = batch.siteId && e.2.sourceMode ≠ batch.sourceMode) = false)
    (hfresh : t.batches.get? (batch.siteId, batch.batchId) = none)
    (hcheckpoint : (t.batches.items.any fun e => e.1.1 = batch.siteId &&
      e.2.sourceMode = batch.sourceMode && e.2.checkpoint = batch.checkpoint) = false) :
    (Postgres.insertBatch batch batchDigest).run t = (.ok (), { t with
      batches := t.batches.set (batch.siteId, batch.batchId)
        (Postgres.batchRow batch batchDigest) }) := by
  simp only [Postgres.insertBatch, isText_of_mem htexts, Proc.run_lift_bind, Proc.run_get_bind,
    hmode, hfresh, hcheckpoint]
  rfl

/-- A row that conflicts with none is inserted. -/
theorem run_insertRow {row : ProjectionRow} (hid : isText batch.batchId = true)
    (hstorable : row.isStorable = true) :
    (Postgres.insertRow py batch row).run t =
      match t.rows.get? (batch.siteId, row.rowId) with
      | some existing =>
          if existing.batchId ≠ batch.batchId ∨
              existing.payloadDigest ≠ digest py (rowDocument row.toRowFields) then
            (.error (.immutableConflict "row_id was reused with different immutable content"), t)
          else (.ok (), t)
      | none =>
          if (t.batches.get? (batch.siteId, batch.batchId)).isNone then (.error .integrityError, t)
          else (.ok (), { t with
            rows := t.rows.set (batch.siteId, row.rowId) (encodeRow py batch.batchId row) }) := by
  rw [Postgres.insertRow, rowRecord_ok hid hstorable, Proc.run_lift_bind]
  simp only [isAdmitted_encodeRow]
  change (match t.rows.get? (batch.siteId, row.rowId) with
    | some existing => _ | none => _ : PgOp Unit).run t = _
  cases t.rows.get? (batch.siteId, row.rowId) with
  | some existing =>
      change (if existing.batchId ≠ batch.batchId ∨ existing.payloadDigest ≠ _ then _ else _ :
        PgOp Unit).run t = _
      rw [Proc.run_ite]
      rfl
  | none =>
      change (if (t.batches.get? (batch.siteId, batch.batchId)).isNone then _ else _ :
        PgOp Unit).run t = _
      rw [Proc.run_ite]
      rfl

/-- Rows with new identifiers are all inserted. -/
theorem run_insertRows {rows : List ProjectionRow} (hid : isText batch.batchId = true)
    (hstorable : ∀ row ∈ rows, row.isStorable = true) (hnodup : (rows.map (·.rowId)).Nodup)
    (hbatch : (t.batches.get? (batch.siteId, batch.batchId)).isSome = true)
    (hfresh : ∀ row ∈ rows, t.rows.get? (batch.siteId, row.rowId) = none) :
    (rows.forM (Postgres.insertRow py batch)).run t = (.ok (), { t with
      rows := (rows.map fun row =>
        ((batch.siteId, row.rowId), encodeRow py batch.batchId row)).foldl
          (fun rows e => rows.set e.1 e.2) t.rows }) := by
  induction rows generalizing t with
  | nil => rfl
  | cons row rows ih =>
      obtain ⟨hrow, hrest⟩ := List.forall_mem_cons.mp hstorable
      obtain ⟨hnew, hrestNew⟩ := List.forall_mem_cons.mp hfresh
      obtain ⟨hnotMem, hnodup⟩ := List.nodup_cons.mp hnodup
      have hnone : (t.batches.get? (batch.siteId, batch.batchId)).isNone = false := by
        rw [← Option.not_isSome, hbatch]
        rfl
      have hfirst := @run_insertRow py t batch row hid hrow
      rw [hnew, hnone] at hfirst
      change (Postgres.insertRow py batch row >>= fun _ =>
        rows.forM (Postgres.insertRow py batch)).run t = _
      rw [Proc.run_bind_ok hfirst]
      refine ih hrest hnodup hbatch fun row' hrow' => ?_
      refine (Dict.get?_set_of_ne _ _ fun heq => ?_).trans (hrestNew row' hrow')
      exact hnotMem (List.mem_map.mpr ⟨row', hrow', (Prod.mk.inj heq).2⟩)

/-- A row whose identifier another batch has used is refused. -/
theorem run_insertRows_conflict {rows : List ProjectionRow} (hid : isText batch.batchId = true)
    (hstorable : ∀ row ∈ rows, row.isStorable = true) (hnodup : (rows.map (·.rowId)).Nodup)
    (hbatch : (t.batches.get? (batch.siteId, batch.batchId)).isSome = true)
    (hother : ∀ row ∈ rows, ∀ existing, t.rows.get? (batch.siteId, row.rowId) = some existing →
      existing.batchId ≠ batch.batchId)
    (husedBy : ∃ row ∈ rows, (t.rows.get? (batch.siteId, row.rowId)).isSome = true) :
    ∃ t', (rows.forM (Postgres.insertRow py batch)).run t =
      (.error (.immutableConflict "row_id was reused with different immutable content"), t') := by
  induction rows generalizing t with
  | nil =>
      obtain ⟨row, hrow, -⟩ := husedBy
      cases hrow
  | cons row rows ih =>
      obtain ⟨hrow, hrest⟩ := List.forall_mem_cons.mp hstorable
      obtain ⟨hfirstOther, hrestOther⟩ := List.forall_mem_cons.mp hother
      obtain ⟨hnotMem, hnodup⟩ := List.nodup_cons.mp hnodup
      have hfirst := @run_insertRow py t batch row hid hrow
      change ∃ t', (Postgres.insertRow py batch row >>= fun _ =>
        rows.forM (Postgres.insertRow py batch)).run t = _
      cases hget : t.rows.get? (batch.siteId, row.rowId) with
      | some existing =>
          rw [hget] at hfirst
          dsimp only at hfirst
          rw [if_pos (.inl (hfirstOther existing hget))] at hfirst
          exact ⟨t, Proc.run_bind_error hfirst⟩
      | none =>
          have hnone : (t.batches.get? (batch.siteId, batch.batchId)).isNone = false := by
            rw [← Option.not_isSome, hbatch]
            rfl
          rw [hget, hnone] at hfirst
          rw [Proc.run_bind_ok hfirst]
          have hsame : ∀ row' ∈ rows, (t.rows.set (batch.siteId, row.rowId)
              (encodeRow py batch.batchId row)).get? (batch.siteId, row'.rowId) =
                t.rows.get? (batch.siteId, row'.rowId) := by
            intro row' hrow'
            refine Dict.get?_set_of_ne _ _ fun heq => ?_
            exact hnotMem (List.mem_map.mpr ⟨row', hrow', (Prod.mk.inj heq).2⟩)
          refine ih hrest hnodup hbatch (fun row' hrow' => ?_) ?_
          · rw [hsame row' hrow']
            exact hrestOther row' hrow'
          · obtain ⟨row', hrow', hused⟩ := husedBy
            rcases List.mem_cons.mp hrow' with rfl | hrow'
            · rw [hget] at hused
              cases hused
            · exact ⟨row', hrow', by rw [hsame row' hrow']; exact hused⟩

/-- The answers of two procedures agree: they raise exceptions of one class, or return values that
are related. -/
def agree {α : Type} (r : α → α → Bool) : Except Raise α → Except Raise α → Bool
  | .ok a, .ok b => r a b
  | .error e, .error e' => e.sameClass e'
  | _, _ => false

/-- `==` of two answers; of a projection only the row is compared. -/
def Answer.eq : Answer → Answer → Bool
  | .batch b, .batch b' => b.eq b'
  | .projection none, .projection none => true
  | .projection (some p), .projection (some p') => p.row.eq p'.row.toRowFields
  | .checkpoint c, .checkpoint c' => c = c'
  | _, _ => false

/-- A batch that is appended in the same way on both sides. -/
structure AppendsAlike (py : Stdlib) (s : Memory) (batch : ProjectionBatch) : Prop where
  storable : batch.isStorable = true
  mode : ∀ existing, s.batches.get? (batch.siteId, batch.batchId) = some existing →
    existing.sourceMode = batch.sourceMode
  same : ∀ existing, s.batches.get? (batch.siteId, batch.batchId) = some existing →
    (existing.eq batch = true ↔
      digest py (batchDocument existing) = digest py (batchDocument batch))

/-- What the transaction does up to the statement that inserts the batch. -/
theorem run_appendBatch_postgres (h : Simulates py s t) (hstorable : batch.isStorable = true) :
    (Postgres.appendBatch py collation batch).run t =
      if s.accepted.any fun b => b.siteId = batch.siteId && b.sourceMode ≠ batch.sourceMode then
        (.error Memory.modeConflict, t)
      else match s.batches.get? (batch.siteId, batch.batchId) with
        | some existing =>
            if digest py (batchDocument existing) ≠ digest py (batchDocument batch) then
              (.error Memory.batchConflict, t)
            else (.ok batch, t)
        | none =>
            if (s.checkpointBatches.get? (Memory.checkpointKey batch)).isSome then
              (.error Memory.checkpointConflict, t)
            else (Proc.atomically do
              Postgres.insertBatch batch (digest py (batchDocument batch))
              batch.rows.forM (Postgres.insertRow py batch)
              Postgres.insertCheckpoint batch
              return batch).run t := by
  have htexts := hstorable
  simp only [ProjectionBatch.isStorable, List.all_cons, List.all_nil, Bool.and_true,
    Bool.and_eq_true] at htexts
  have hid : parameters [batch.batchId] = .ok () := isText_of_mem (by simp [htexts])
  have hcheckpoint : parameters [batch.checkpoint] = .ok () := isText_of_mem (by simp [htexts])
  rw [Postgres.appendBatch, batchDigest_ok hstorable, Proc.run_lift_bind]
  simp only [Proc.run_atomically, Proc.run_get_bind, h.existingMode, hid, hcheckpoint]
  by_cases hmode : (s.accepted.any fun b =>
      b.siteId = batch.siteId && b.sourceMode ≠ batch.sourceMode) = true
  · rw [if_pos hmode, if_pos hmode]
    rfl
  · rw [if_neg hmode, if_neg hmode]
    have hget : t.batches.get? (batch.siteId, batch.batchId) =
        (s.batches.get? (batch.siteId, batch.batchId)).map (encodeBatch py) := by
      rw [h.batches, Dict.get?_map]
    have hused := h.get?_checkpoints (Memory.checkpointKey batch)
    rw [Proc.run_lift_bind, hget]
    cases s.batches.get? (batch.siteId, batch.batchId) with
    | some existing =>
        dsimp only [Option.map_some, encodeBatch, Postgres.batchRow]
        by_cases hdigest : digest py (batchDocument existing) ≠ digest py (batchDocument batch)
        · rw [if_pos hdigest, if_pos hdigest]
          rfl
        · rw [if_neg hdigest, if_neg hdigest]
          rfl
    | none =>
        dsimp only [Option.map_none]
        rw [Proc.run_lift_bind]
        dsimp only
        rw [hused]
        by_cases hconflict :
            (s.checkpointBatches.get? (Memory.checkpointKey batch)).isSome = true
        · rw [if_pos hconflict, if_pos hconflict]
          rfl
        · rw [if_neg hconflict, if_neg hconflict]

/-- What the transaction does from there. -/
theorem run_insert (h : Simulates py s t) (hstorable : batch.isStorable = true)
    (hfresh : s.batches.get? (batch.siteId, batch.batchId) = none)
    (hmode : (s.accepted.any fun b =>
      b.siteId = batch.siteId && b.sourceMode ≠ batch.sourceMode) = false)
    (hcheckpoint : s.checkpointBatches.get? (Memory.checkpointKey batch) = none) :
    (Proc.atomically do
      Postgres.insertBatch batch (digest py (batchDocument batch))
      batch.rows.forM (Postgres.insertRow py batch)
      Postgres.insertCheckpoint batch
      return batch).run t =
      if batch.rows.any fun row => (s.rowIds.get? (batch.siteId, row.rowId)).isSome then
        (.error (.immutableConflict "row_id was reused with different immutable content"), t)
      else (.ok batch, t.recorded py batch) := by
  have htexts := hstorable
  simp only [ProjectionBatch.isStorable, List.all_cons, List.all_nil, Bool.and_true,
    Bool.and_eq_true, List.all_eq_true] at htexts
  have hbatch : (Postgres.insertBatch batch (digest py (batchDocument batch))).run t =
      (.ok (), { t with
        batches := t.batches.set (batch.siteId, batch.batchId) (encodeBatch py batch) }) := by
    refine run_insertBatch (by simp [htexts]) ?_ ?_ ?_
    · rw [h.batches_any fun e => e.1.1 = batch.siteId && e.2.1 ≠ batch.sourceMode]
      exact hmode
    · rw [h.batches, Dict.get?_map, hfresh]
      rfl
    · rw [h.batches_any fun e => e.1.1 = batch.siteId && e.2.1 = batch.sourceMode &&
        e.2.2 = batch.checkpoint, List.any_eq_false]
      intro b hb
      have hentry : (Memory.checkpointKey b, b.batchId) ∈ s.checkpointBatches.items := by
        rw [h.consistent.checkpointBatches]
        exact List.mem_map.mpr ⟨b, hb, rfl⟩
      simp only [Bool.and_eq_true, decide_eq_true_eq]
      rintro ⟨⟨hsite, hmode⟩, hsame⟩
      rw [Dict.mem_items, Memory.checkpointKey, hsite, hmode, hsame] at hentry
      exact absurd (hentry.symm.trans hcheckpoint) (by simp)
  have hpresent : ((t.batches.set (batch.siteId, batch.batchId) (encodeBatch py batch)).get?
      (batch.siteId, batch.batchId)).isSome = true := by rw [Dict.get?_set_self]; rfl
  have hrows : ∀ row : ProjectionRow, t.rows.get? (batch.siteId, row.rowId) =
      (s.rowIds.get? (batch.siteId, row.rowId)).map fun v => encodeRow py v.1 v.2 := by
    intro row
    rw [h.rows, Dict.get?_map]
  rw [Proc.run_atomically, Proc.run_bind_ok hbatch]
  by_cases hconflict :
      (batch.rows.any fun row => (s.rowIds.get? (batch.siteId, row.rowId)).isSome) = true
  · have hused : ∃ row ∈ batch.rows, (t.rows.get? (batch.siteId, row.rowId)).isSome = true := by
      obtain ⟨row, hrow, hused⟩ := List.any_eq_true.mp hconflict
      exact ⟨row, hrow, by rw [hrows, Option.isSome_map]; exact hused⟩
    have hother : ∀ row ∈ batch.rows, ∀ existing,
        t.rows.get? (batch.siteId, row.rowId) = some existing →
          existing.batchId ≠ batch.batchId := by
      intro row hrow existing hget hsame
      rw [hrows] at hget
      obtain ⟨v, hv, rfl⟩ := Option.map_eq_some_iff.mp hget
      -- the row came with a batch of the site, which then is this one
      have hentry := Dict.mem_items.mpr hv
      rw [h.consistent.rowIds] at hentry
      obtain ⟨p, hp, heq⟩ := List.mem_map.mp hentry
      obtain ⟨b, hb, hpb⟩ := List.mem_flatMap.mp hp
      obtain ⟨r, hr, rfl⟩ := List.mem_map.mp hpb
      have hfound := (Memory.get?_eq_some h.consistent).mpr ⟨hb, rfl⟩
      simp only [Prod.mk.injEq] at heq
      obtain ⟨⟨hsite, -⟩, rfl⟩ := heq
      rw [hsite, show b.batchId = batch.batchId from hsame, hfresh] at hfound
      cases hfound
    obtain ⟨t', ht'⟩ := @run_insertRows_conflict py { t with
      batches := t.batches.set (batch.siteId, batch.batchId) (encodeBatch py batch) } batch batch.rows
      htexts.1.1 htexts.2 batch.nodup_rowId hpresent hother hused
    rw [Proc.run_bind_error ht', if_pos hconflict]
  · have hnew : ∀ row ∈ batch.rows, t.rows.get? (batch.siteId, row.rowId) = none := by
      intro row hrow
      rw [hrows, Option.map_eq_none_iff, ← Option.not_isSome_iff_eq_none]
      exact fun hsome => hconflict (List.any_eq_true.mpr ⟨row, hrow, hsome⟩)
    have hinserted := @run_insertRows py { t with
      batches := t.batches.set (batch.siteId, batch.batchId) (encodeBatch py batch) } batch batch.rows
      htexts.1.1 htexts.2 batch.nodup_rowId hpresent hnew
    have hnone : (t.checkpoints.get? (Memory.checkpointKey batch)).isSome = false := by
      rw [h.get?_checkpoints, hcheckpoint]
      rfl
    rw [Proc.run_bind_ok hinserted, if_neg hconflict, Postgres.insertCheckpoint,
      Proc.run_modify_bind]
    dsimp only
    rw [hnone]
    rfl

theorem agrees_appendBatch (h : Simulates py s t) (hbatch : AppendsAlike py s batch) :
    agree ProjectionBatch.eq ((Memory.appendBatch batch).run s).1
        ((Postgres.appendBatch py collation batch).run t).1 = true ∧
      Simulates py ((Memory.appendBatch batch).run s).2
        ((Postgres.appendBatch py collation batch).run t).2 := by
  rw [run_appendBatch_postgres h hbatch.storable, run_appendBatch]
  cases hget : s.batches.get? (batch.siteId, batch.batchId) with
  | some existing =>
      obtain ⟨hmem, hkey⟩ := (Memory.get?_eq_some h.consistent).mp hget
      have hmode : (s.accepted.any fun b =>
          b.siteId = batch.siteId && b.sourceMode ≠ batch.sourceMode) = false := by
        rw [List.any_eq_false]
        intro b hb
        have hsame := hbatch.mode existing hget
        have hmodes := h.consistent.modes b hb existing hmem
        simp only [Bool.and_eq_true, decide_eq_true_eq]
        rintro ⟨hsite, hne⟩
        exact hne ((hmodes (hsite.trans (Prod.mk.inj hkey).1)).trans hsame)
      dsimp only
      rw [hmode]
      by_cases hsame : existing.eq batch = true
      · rw [if_pos hsame, if_neg (by decide), if_neg (not_not_intro ((hbatch.same _ hget).mp hsame))]
        exact ⟨hsame, h⟩
      · rw [if_neg hsame, if_neg (by decide), if_pos (mt (hbatch.same _ hget).mpr hsame)]
        exact ⟨rfl, h⟩
  | none =>
      dsimp only
      split
      next hmode =>
        exact ⟨rfl, h⟩
      next hmode =>
        by_cases hcheckpoint :
            (s.checkpointBatches.get? (Memory.checkpointKey batch)).isSome = true
        · rw [if_pos hcheckpoint, if_pos hcheckpoint]
          exact ⟨rfl, h⟩
        · have hnone := Option.not_isSome_iff_eq_none.mp hcheckpoint
          rw [if_neg hcheckpoint, if_neg hcheckpoint,
            run_insert h hbatch.storable hget (Bool.eq_false_iff.mpr hmode) hnone]
          split
          next => exact ⟨rfl, h⟩
          next hrows =>
            refine ⟨batch.eq_self, h.recorded hbatch.storable ⟨hget, ?_, hnone, ?_⟩⟩
            · intro b hb hsite
              by_contra hne
              exact hmode (List.any_eq_true.mpr ⟨b, hb, by simp [hsite, hne]⟩)
            · intro row hrow
              rw [← Option.not_isSome_iff_eq_none]
              exact fun hsome => hrows (List.any_eq_true.mpr ⟨row, hrow, hsome⟩)

end Append

/-! ## Reading -/

section Reading
variable {py : Stdlib} {collation : Collation} {s : Memory} {t : Tables}

theorem joined_eq (h : Simulates py s t) :
    Postgres.joined t = s.projections.map (encodeJoined py) := by
  have hitems : t.rows.items = s.projections.map fun p =>
      ((p.batch.siteId, p.row.rowId), encodeRow py p.batch.batchId p.row) := by
    rw [h.rows, Dict.items_map, h.consistent.rowIds, List.map_map]
    rfl
  rw [Postgres.joined, hitems, List.filterMap_map]
  refine (List.filterMap_congr fun p hp => ?_).trans
    (congrFun (List.filterMap_eq_map (f := encodeJoined py)) _)
  obtain ⟨b, hb, hpb⟩ := List.mem_flatMap.mp hp
  obtain ⟨row, -, rfl⟩ := List.mem_map.mp hpb
  have hbatch : t.batches.get? (b.siteId, b.batchId) = some (encodeBatch py b) := by
    rw [h.batches, Dict.get?_map, (Memory.get?_eq_some h.consistent).mpr ⟨hb, rfl⟩]
    rfl
  change (t.batches.get? (b.siteId, b.batchId)).map _ = _
  rw [hbatch]
  rfl

/-- The candidates are the rows that are asked for. -/
theorem candidates_eq (query : ProjectionQuery) : s.candidates query =
    s.projections.filter fun p => (p.batch.siteId = query.siteId &&
      p.batch.sourceMode = query.sourceMode) && Memory.isAskedFor query p.row := by
  unfold Memory.candidates Memory.projections
  induction s.accepted with
  | nil => rfl
  | cons batch batches ih =>
      rw [List.flatMap_cons, List.filter_append, ← ih]
      by_cases hbatch : (batch.siteId = query.siteId && batch.sourceMode = query.sourceMode) = true
      · rw [List.filter_cons, if_pos hbatch, List.flatMap_cons, List.filter_map]
        simp only [Function.comp_def, hbatch, Bool.true_and]
      · rw [List.filter_cons, if_neg hbatch, List.filter_map]
        simp only [Function.comp_def, Bool.eq_false_iff.mpr hbatch, Bool.false_and]
        simp

/-- The arguments that the database accepts. -/
def ProjectionQuery.isValid (query : ProjectionQuery) : Bool :=
  isIdentifier 256 query.siteId && isText query.siteId && isMetricKey query.metricKey &&
    (requireWindow query.windowStart query.windowEnd).isOk

/-- The projection that is greatest by code points is greatest in the database too. -/
def ranksAlike (collation : Collation) (found : List StoredProjection) : Prop :=
  ∀ p ∈ found, (∀ p' ∈ found, comesFirst codePoints p.rank p'.rank = true) →
    ∀ p' ∈ found, comesFirst collation p.rank p'.rank = true

theorem rank_injective (h : s.Consistent) {p p' : StoredProjection} (hp : p ∈ s.projections)
    (hp' : p' ∈ s.projections) (hsite : p.batch.siteId = p'.batch.siteId)
    (hrank : p.rank = p'.rank) : p = p' := by
  obtain ⟨-, hids⟩ := Prod.mk.inj hrank
  have hrow : p.row.rowId = p'.row.rowId := by simpa using (List.cons.inj hids).2
  have hkeys := s.rowIds.nodup_items
  rw [h.rowIds, List.map_map] at hkeys
  exact List.inj_on_of_nodup_map hkeys hp hp' (by simp [hsite, hrow])

theorem requireWindow_some {start finish : Option Datetime} {window : Datetime × Datetime}
    (h : requireWindow start finish = .ok window) :
    start = some window.1 ∧ finish = some window.2 := by
  cases start with
  | none => cases h
  | some start =>
      cases finish with
      | none =>
          simp only [requireWindow, Proc.bind_eq_ok] at h
          obtain ⟨_, -, _, hnone, -⟩ := h
          cases hnone
      | some finish =>
          obtain ⟨-, -, -, -, rfl⟩ := requireWindow_eq_ok.mp h
          exact ⟨rfl, rfl⟩

/-- The records of the query are those of the candidates. -/
theorem asked_eq (h : Simulates py s t) {query : ProjectionQuery} {window : Datetime × Datetime}
    (hwindow : requireWindow query.windowStart query.windowEnd = .ok window) :
    (Postgres.joined t).filter (Postgres.isAskedFor query.siteId query.metricKey query.sourceMode
        window.1.instant window.2.instant) =
      (s.candidates query).map (encodeJoined py) := by
  obtain ⟨hstart, hfinish⟩ := requireWindow_some hwindow
  rw [joined_eq h, candidates_eq, List.filter_map]
  refine congrArg _ (List.filter_congr fun p hp => ?_)
  rw [Memory.isAskedFor, hstart, hfinish, Bool.eq_iff_iff]
  change (decide (p.batch.siteId = query.siteId) && decide (p.row.metricKey = query.metricKey) &&
    decide (p.batch.sourceMode = query.sourceMode) &&
    decide (p.row.windowStart.instant = window.1.instant) &&
    decide (p.row.windowEnd.instant = window.2.instant)) = true ↔ _
  simp only [Option.any_some, Bool.and_eq_true, decide_eq_true_eq]
  tauto

theorem agrees_findProjection (horder : IsOrder collation) (h : Simulates py s t)
    {query : ProjectionQuery} (hvalid : query.isValid = true)
    (hranks : ranksAlike collation (s.candidates query)) :
    ∃ found, (Postgres.findProjection collation query).run t = (.ok found, t) ∧
      (Answer.projection (greatest codePoints StoredProjection.rank (s.candidates query))).eq
        (.projection found) = true := by
  simp only [ProjectionQuery.isValid, Bool.and_eq_true] at hvalid
  obtain ⟨⟨⟨hsite, htext⟩, hkey⟩, hwindow⟩ := hvalid
  obtain ⟨window, hwindow⟩ : ∃ window,
      requireWindow query.windowStart query.windowEnd = .ok window := by
    cases hw : requireWindow query.windowStart query.windowEnd with
    | error e => rw [hw] at hwindow; cases hwindow
    | ok window => exact ⟨window, rfl⟩
  have hchecks : requireIdentifier query.siteId "site_id" = .ok () ∧
      requireMetricKey query.metricKey = .ok () ∧ parameters [query.siteId] = .ok () :=
    ⟨rejectIf_eq_ok.mpr (by simp [hsite]), rejectIf_eq_ok.mpr (by simp [hkey]),
      isText_of_mem (by simp [htext])⟩
  have hrun : (Postgres.findProjection collation query).run t =
      (((greatest collation Postgres.Joined.rank
        ((s.candidates query).map (encodeJoined py))).mapM
          fun record => liftM (Postgres.projectionOf record) : PgOp _)).run t := by
    simp only [Postgres.findProjection, hchecks, hwindow, Proc.run_lift_bind]
    rw [← asked_eq h hwindow]
    rfl
  have hmap : greatest collation Postgres.Joined.rank
      ((s.candidates query).map (encodeJoined py)) =
        (greatest collation StoredProjection.rank (s.candidates query)).map (encodeJoined py) :=
    greatest_map collation _ fun p _ => rfl
  rw [hrun, hmap]
  rcases greatest_spec isOrder_codePoints StoredProjection.rank (s.candidates query) with
    ⟨hnil, hnone⟩ | ⟨m, hm, hgreatest, hfirst⟩
  · rw [hnone, hnil]
    exact ⟨none, rfl, rfl⟩
  · have hmem : ∀ p ∈ s.candidates query, p ∈ s.projections ∧ p.batch.siteId = query.siteId := by
      intro p hp
      rw [candidates_eq] at hp
      obtain ⟨hmem, hcond⟩ := List.mem_filter.mp hp
      simp only [Bool.and_eq_true, decide_eq_true_eq] at hcond
      exact ⟨hmem, hcond.1.1⟩
    obtain ⟨x, hx, hxGreatest, hrank⟩ := greatest_rank horder hm (hranks m hm hfirst)
    obtain rfl : x = m := rank_injective h.consistent (hmem x hx).1 (hmem m hm).1
      ((hmem x hx).2.trans (hmem m hm).2.symm) hrank
    have hstorable : x.row.isStorable = true := by
      obtain ⟨b, hb, hpb⟩ := List.mem_flatMap.mp (hmem x hx).1
      obtain ⟨row, hrow, rfl⟩ := List.mem_map.mp hpb
      have hall := h.consistent.storable b hb
      simp only [ProjectionBatch.isStorable, Bool.and_eq_true, List.all_eq_true] at hall
      exact hall.2 row hrow
    obtain ⟨found, hfound, heq⟩ := projectionOf_encodeJoined py hstorable
    rw [hgreatest, hxGreatest]
    refine ⟨some found, ?_, heq⟩
    change ((liftM (Postgres.projectionOf (encodeJoined py x)) : PgOp _) >>= fun p =>
      pure (some p)).run t = _
    rw [hfound, Proc.run_lift_bind]
    rfl

/-- What the checkpoint of a batch is chosen by. -/
def checkpointRank (batch : ProjectionBatch) : Rank :=
  (batch.retrievedAt.instant, [batch.checkpoint])

/-- The batch that arrived last was retrieved last. -/
def lastIsGreatest (collation : Collation) (batches : List ProjectionBatch) : Prop :=
  ∀ last, batches.getLast? = some last → ∀ batch ∈ batches,
    comesFirst collation (checkpointRank last) (checkpointRank batch) = true

theorem run_checkpoint_postgres (h : Simulates py s t) {siteId : String} {sourceMode : SourceMode}
    (hsite : isIdentifier 256 siteId = true) (htext : isText siteId = true) :
    (Postgres.checkpoint collation siteId sourceMode).run t =
      (.ok ((greatest collation checkpointRank (s.arrived siteId sourceMode)).map (·.checkpoint)),
        t) := by
  have hchecks : requireIdentifier siteId "site_id" = .ok () ∧ parameters [siteId] = .ok () :=
    ⟨rejectIf_eq_ok.mpr (by simp [hsite]), isText_of_mem (by simp [htext])⟩
  have hrecorded : (t.checkpoints.items.filter fun e =>
      e.1.1 = siteId && e.1.2.1 = sourceMode) =
        (s.arrived siteId sourceMode).map checkpointEntry := by
    rw [h.checkpoints, List.filter_map]
    rfl
  have hgreatest : greatest collation
      (fun e : (String × SourceMode × String) × CheckpointRow => (e.2.recordedAt, [e.1.2.2]))
      ((s.arrived siteId sourceMode).map checkpointEntry) =
        (greatest collation checkpointRank (s.arrived siteId sourceMode)).map checkpointEntry :=
    greatest_map collation _ fun batch _ => rfl
  simp only [Postgres.checkpoint, hchecks, Proc.run_lift_bind, Proc.run_getThe_bind, hrecorded]
  rw [hgreatest, Option.map_map]
  rfl

theorem agrees_checkpoint (horder : IsOrder collation) (h : Simulates py s t) {siteId : String}
    {sourceMode : SourceMode} (hsite : isIdentifier 256 siteId = true)
    (htext : isText siteId = true) (hlast : lastIsGreatest collation (s.arrived siteId sourceMode)) :
    (Postgres.checkpoint collation siteId sourceMode).run t =
      (.ok (s.checkpoints.get? (siteId, sourceMode)), t) := by
  rw [run_checkpoint_postgres h hsite htext, h.consistent.checkpoints]
  cases hget : (s.arrived siteId sourceMode).getLast? with
  | none => rw [List.getLast?_eq_none_iff.mp hget]; rfl
  | some last =>
      obtain ⟨batch, -, hgreatest, hrank⟩ :=
        greatest_rank horder (List.mem_of_getLast? hget) (hlast last hget)
      have hsame : batch.checkpoint = last.checkpoint := by
        simpa [checkpointRank] using (Prod.mk.inj hrank).2
      rw [hgreatest, Option.map_some, Option.map_some, hsame]

end Reading

/-! ## Runs -/

/-- The condition under which a call is answered alike. A batch fits the columns; one with a known
identifier names the mode of the batch known, and spells its decimals as that one does if it equals
it. A query fits the database, which ranks its candidates as code points do. The checkpoint that a
site is asked for is the one retrieved last. -/
def Call.isSafe (collation : Collation) (s : Memory) : Call → Prop
  | appendBatch batch => batch.isStorable = true ∧
      ∀ existing, s.batches.get? (batch.siteId, batch.batchId) = some existing →
        existing.sourceMode = batch.sourceMode ∧ (existing.eq batch = true → existing = batch)
  | findProjection query => query.isValid = true ∧ ranksAlike collation (s.candidates query)
  | checkpoint siteId sourceMode => isIdentifier 256 siteId = true ∧ isText siteId = true ∧
      lastIsGreatest collation (s.arrived siteId sourceMode)

/-- No two batches of the run have different documents of one digest. -/
def CollisionFree (py : Stdlib) (calls : List Call) : Prop :=
  ∀ batch batch', .appendBatch batch ∈ calls → .appendBatch batch' ∈ calls →
    digest py (batchDocument batch) = digest py (batchDocument batch') →
      (batchDocument batch).dumpsAscii = (batchDocument batch').dumpsAscii

section Runs
variable {py : Stdlib} {collation : Collation} {s : Memory} {t : Tables}

/-- Both sides answer a call alike and stay in step. -/
theorem agrees (horder : IsOrder collation) (h : Simulates py s t) {c : Call}
    (hsafe : c.isSafe collation s)
    (hdigest : ∀ batch existing, c = .appendBatch batch → existing ∈ s.accepted →
      digest py (batchDocument existing) = digest py (batchDocument batch) → existing = batch) :
    agree Answer.eq (Memory.machine.step s c).1 ((Postgres.machine py collation).step t c).1 =
        true ∧
      Simulates py (Memory.machine.step s c).2 ((Postgres.machine py collation).step t c).2 := by
  cases c with
  | appendBatch batch =>
      obtain ⟨hstorable, hknown⟩ := hsafe
      have hbatch : AppendsAlike py s batch := by
        refine ⟨hstorable, fun existing hget => (hknown existing hget).1, fun existing hget => ?_⟩
        constructor
        · intro heq
          rw [(hknown existing hget).2 heq]
        · intro heq
          have hmem := ((Memory.get?_eq_some h.consistent).mp hget).1
          rw [hdigest batch existing rfl hmem heq]
          exact batch.eq_self
      obtain ⟨hanswer, hnext⟩ :=
        @agrees_appendBatch py collation s t batch h hbatch
      change agree Answer.eq ((Answer.batch <$> Memory.appendBatch batch).run s).1
        ((Answer.batch <$> Postgres.appendBatch py collation batch).run t).1 = true ∧
          Simulates py ((Answer.batch <$> Memory.appendBatch batch).run s).2
            ((Answer.batch <$> Postgres.appendBatch py collation batch).run t).2
      rw [Proc.run_map, Proc.run_map]
      refine ⟨?_, hnext⟩
      revert hanswer
      cases ((Memory.appendBatch batch).run s).1 <;>
        cases ((Postgres.appendBatch py collation batch).run t).1 <;> exact id
  | findProjection query =>
      obtain ⟨found, hrun, heq⟩ := agrees_findProjection horder h hsafe.1 hsafe.2
      change agree Answer.eq (.ok (.projection (greatest codePoints StoredProjection.rank
        (s.candidates query))))
        ((Answer.projection <$> Postgres.findProjection collation query).run t).1 = true ∧
          Simulates py s ((Answer.projection <$> Postgres.findProjection collation query).run t).2
      rw [Proc.run_map, hrun]
      exact ⟨heq, h⟩
  | checkpoint siteId sourceMode =>
      have hrun := agrees_checkpoint horder h hsafe.1 hsafe.2.1 hsafe.2.2
      change agree Answer.eq (.ok (.checkpoint (s.checkpoints.get? (siteId, sourceMode))))
        ((Answer.checkpoint <$> Postgres.checkpoint collation siteId sourceMode).run t).1 = true ∧
          Simulates py s
            ((Answer.checkpoint <$> Postgres.checkpoint collation siteId sourceMode).run t).2
      rw [Proc.run_map, hrun]
      exact ⟨decide_eq_true rfl, h⟩

/-- A call accepts no batch but its own. -/
theorem mem_accepted_step {c : Call} {batch : ProjectionBatch}
    (hmem : batch ∈ (Memory.machine.step s c).2.accepted) :
    batch ∈ s.accepted ∨ c = .appendBatch batch := by
  cases c with
  | appendBatch new =>
      change batch ∈ ((Answer.batch <$> Memory.appendBatch new).run s).2.accepted at hmem
      rw [Proc.run_map, run_appendBatch] at hmem
      cases hget : s.batches.get? (new.siteId, new.batchId) with
      | some existing =>
          rw [hget] at hmem
          dsimp only at hmem
          split at hmem <;> exact .inl hmem
      | none =>
          rw [hget] at hmem
          dsimp only at hmem
          split at hmem
          next => exact .inl hmem
          next =>
            split at hmem
            next => exact .inl hmem
            next =>
              split at hmem
              next => exact .inl hmem
              next =>
                change batch ∈ (s.recorded new).accepted at hmem
                rw [Memory.accepted_recorded hget, List.mem_append, List.mem_singleton] at hmem
                exact hmem.imp_right fun heq => by rw [heq]
  | findProjection query => exact .inl hmem
  | checkpoint siteId sourceMode => exact .inl hmem

/-- Runs of safe calls are answered alike by the dictionaries and by the tables. -/
theorem Memory.run_agrees (horder : IsOrder collation) (calls : List Call)
    (hcollision : CollisionFree py calls)
    (hsafe : Memory.machine.Guarded (Call.isSafe collation) {} calls) :
    List.Forall₂ (fun a b => a.1 = b.1 ∧ agree Answer.eq a.2 b.2 = true)
      (Memory.machine.trace {} calls) ((Postgres.machine py collation).trace {} calls) := by
  have hmem : Memory.machine.Guarded (fun _ c => c ∈ calls) {} calls :=
    Machine.Guarded.of_forall (fun c hc _ => hc) _
  refine (hsafe.and hmem).forall₂_trace (N := Postgres.machine py collation)
    (R := fun s t => Simulates py s t ∧ ∀ batch ∈ s.accepted, .appendBatch batch ∈ calls)
    (A := fun a b => agree Answer.eq a b = true) ?_
    ⟨simulates_empty py, fun batch hbatch => by cases hbatch⟩
  rintro s t c ⟨hsim, haccepted⟩ ⟨hsafe, hc⟩
  have hdigest : ∀ batch existing, c = .appendBatch batch → existing ∈ s.accepted →
      digest py (batchDocument existing) = digest py (batchDocument batch) → existing = batch := by
    rintro batch existing rfl hexisting heq
    exact batchDocument_injective (Json.dumpsAscii_injective
      (hcollision existing batch (haccepted existing hexisting) hc heq))
  obtain ⟨hanswer, hnext⟩ := agrees horder hsim hsafe hdigest
  refine ⟨hanswer, hnext, fun batch hbatch => ?_⟩
  rcases mem_accepted_step hbatch with hold | rfl
  · exact haccepted batch hold
  · exact hc

end Runs

/-! ### Batches that arrive in another order than they were retrieved in -/

/-- The fields of a batch with one row, retrieved early or late. -/
def sampleRow (late : Bool) : RowFields :=
  { rowId := if late then "row-2" else "row-1"
    metricKey := "orders.total"
    windowStart := newYear
    windowEnd := newYear
    asOf := newYear
    value := ⟨false, 10, -1⟩
    includedCount := 1
    totalCount := 1
    reconciliationReference := "ledger-1"
    reconciliationVariance := ⟨false, 0, 0⟩
    reconciliationCheckedAt := newYear
    sourceRecordRefs := ["order-1"]
    governed := true
    definitionVersion := "1.0.0" }

theorem sampleRow_check : ∀ late, (sampleRow late).check.isOk = true := by decide +kernel

def sampleFields (late : Bool) : BatchFields :=
  { batchId := if late then "batch-2" else "batch-1"
    siteId := "acme"
    sourceMode := .synthetic
    checkpoint := if late then "000002" else "000001"
    sourceSystem := "synthetic-fixture"
    transformationVersion := "1.0.0"
    retrievedAt := newYearAt (if late then 2000000 else 1000000)
    rows := [⟨sampleRow late, sampleRow_check late⟩] }

theorem sampleFields_check : ∀ late, (sampleFields late).check.isOk = true := by decide +kernel

def sampleBatch (late : Bool) : ProjectionBatch := ⟨sampleFields late, sampleFields_check late⟩

/-- The batch retrieved last arrives first, and the site is asked for its checkpoint. -/
def lateFirst : List Call :=
  [.appendBatch (sampleBatch true), .appendBatch (sampleBatch false),
    .checkpoint "acme" .synthetic]

/-- The dictionaries name the checkpoint of the batch that arrived last, and the tables the one of
the batch that was retrieved last. -/
theorem arrival_disagrees :
    ¬List.Forall₂ (fun a b => a.1 = b.1 ∧ agree Answer.eq a.2 b.2 = true)
      (Memory.machine.trace {} lateFirst)
      ((Postgres.machine (.ascii []) codePoints).trace {} lateFirst) := by
  intro h
  simp only [lateFirst, Machine.trace_cons] at h
  rcases h with _ | ⟨-, _ | ⟨-, _ | ⟨⟨-, hcheckpoint⟩, -⟩⟩⟩
  exact absurd hcheckpoint (by decide +kernel)

/-- A batch, its replay, and a question for the checkpoint of the site. -/
def replayed : List Call :=
  [.appendBatch (sampleBatch false), .appendBatch (sampleBatch false),
    .checkpoint "acme" .synthetic]

theorem run_agrees_replayed :
    List.Forall₂ (fun a b => a.1 = b.1 ∧ agree Answer.eq a.2 b.2 = true)
      (Memory.machine.trace {} replayed)
      ((Postgres.machine (.ascii []) codePoints).trace {} replayed) := by
  refine Memory.run_agrees isOrder_codePoints _ ?_ ⟨⟨?_, ?_⟩, ⟨?_, ?_⟩, ⟨?_, ?_, ?_⟩, trivial⟩
  · intro batch batch' _ _ h
    exact Stdlib.ascii_sha256_injective h
  · decide +kernel
  · intro existing hget
    cases hget
  · decide +kernel
  · intro existing hget
    obtain rfl : sampleBatch false = existing := Option.some.inj hget
    exact ⟨rfl, fun _ => rfl⟩
  · decide +kernel
  · decide +kernel
  · intro last hlast batch hbatch
    obtain rfl : sampleBatch false = last := Option.some.inj hlast
    obtain rfl : batch = sampleBatch false := List.mem_singleton.mp hbatch
    decide +kernel

end EsanGbos.Metrics
