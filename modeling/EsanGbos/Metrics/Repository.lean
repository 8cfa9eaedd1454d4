import Mathlib.Data.List.Sort
import EsanGbos.Lib.Table
import EsanGbos.Metrics.Models

/-!
# The repository in memory

`InMemoryMetricsRepository` keeps the batches by their identifiers and remembers which batch a row
or a checkpoint came with. The checkpoint of a site is that of the batch that arrived last.

## Main definitions

* `Memory` — the four dictionaries.
* `Memory.appendBatch`, `Memory.findProjection`, `Memory.checkpoint` — the operations.
* `Memory.machine` — the repository as a machine that answers calls.
-/
namespace EsanGbos.Metrics
open Lib

/-- The dictionaries of the repository. -/
structure Memory where
  batches : Dict (String × String) ProjectionBatch := Dict.empty
  rowIds : Dict (String × String) (String × ProjectionRow) := Dict.empty
  checkpoints : Dict (String × SourceMode) String := Dict.empty
  checkpointBatches : Dict (String × SourceMode × String) String := Dict.empty

abbrev MemoryOp := Proc Raise Memory

/-- The arguments of `find_projection`. -/
structure ProjectionQuery where
  siteId : String
  metricKey : String
  sourceMode : SourceMode
  windowStart : Option Datetime
  windowEnd : Option Datetime

/-- The call of a repository. -/
inductive Call where
  | appendBatch (batch : ProjectionBatch)
  | findProjection (query : ProjectionQuery)
  | checkpoint (siteId : String) (sourceMode : SourceMode)

inductive Answer where
  | batch (batch : ProjectionBatch)
  | projection (found : Option StoredProjection)
  | checkpoint (found : Option String)

/-! ## Which record comes first

Both repositories take the greatest of some records: the one of the latest time, and among those the
one with the greatest texts. A later record is written on the left. -/

/-- What records are compared by. -/
abbrev Rank := Timestamptz × List String

/-- Texts in the order of a collation, compared one after the other. -/
def textsLe (collation : Collation) : List String → List String → Bool
  | [], _ => true
  | _ :: _, [] => false
  | s :: ss, t :: ts => if s = t then textsLe collation ss ts else collation.le s t

def comesFirst (collation : Collation) (a b : Rank) : Bool :=
  b.1 < a.1 || (b.1 = a.1 && textsLe collation b.2 a.2)

/-- The first record in an order by rank. -/
def greatest {ρ : Type} (collation : Collation) (rank : ρ → Rank) (records : List ρ) : Option ρ :=
  (records.insertionSort fun a b => comesFirst collation (rank a) (rank b)).head?

/-- A collation is a linear order: PostgreSQL breaks ties by the bytes of the texts. -/
structure IsOrder (collation : Collation) : Prop where
  total : ∀ s t, collation.le s t = true ∨ collation.le t s = true
  trans : ∀ s t u, collation.le s t = true → collation.le t u = true → collation.le s u = true
  antisymm : ∀ s t, collation.le s t = true → collation.le t s = true → s = t

theorem isOrder_codePoints : IsOrder codePoints where
  total s t := by simpa [codePoints] using String.le_total s t
  trans s t u hst htu := by
    simp only [codePoints, decide_eq_true_eq] at hst htu ⊢
    exact String.le_trans hst htu
  antisymm s t hst hts := by
    simp only [codePoints, decide_eq_true_eq] at hst hts
    exact String.le_antisymm hst hts

section Order
variable {collation : Collation} (horder : IsOrder collation)
include horder

theorem textsLe_total (ss ts : List String) :
    textsLe collation ss ts = true ∨ textsLe collation ts ss = true := by
  induction ss generalizing ts with
  | nil => exact .inl (by simp [textsLe])
  | cons s ss ih =>
      cases ts with
      | nil => exact .inr (by simp [textsLe])
      | cons t ts =>
          by_cases h : s = t
          · simpa [textsLe, h] using ih ts
          · simpa [textsLe, h, Ne.symm h] using horder.total s t

theorem textsLe_trans {ss ts us : List String} (hst : textsLe collation ss ts = true)
    (htu : textsLe collation ts us = true) : textsLe collation ss us = true := by
  induction ss generalizing ts us with
  | nil => simp [textsLe]
  | cons s ss ih =>
      cases ts with
      | nil => simp [textsLe] at hst
      | cons t ts =>
          cases us with
          | nil => simp [textsLe] at htu
          | cons u us =>
              rw [textsLe] at hst htu ⊢
              by_cases h : s = t
              · subst h
                rw [if_pos rfl] at hst
                by_cases h' : s = u
                · rw [if_pos h'] at htu ⊢
                  exact ih hst htu
                · rw [if_neg h'] at htu ⊢
                  exact htu
              · rw [if_neg h] at hst
                by_cases h' : t = u
                · rw [if_neg (h' ▸ h)]
                  exact h' ▸ hst
                · rw [if_neg h'] at htu
                  by_cases hsu : s = u
                  · exact absurd (horder.antisymm s t hst (hsu ▸ htu)) h
                  · rw [if_neg hsu]
                    exact horder.trans s t u hst htu

theorem textsLe_antisymm {ss ts : List String} (hst : textsLe collation ss ts = true)
    (hts : textsLe collation ts ss = true) : ss = ts := by
  induction ss generalizing ts with
  | nil =>
      cases ts with
      | nil => rfl
      | cons t ts => simp [textsLe] at hts
  | cons s ss ih =>
      cases ts with
      | nil => simp [textsLe] at hst
      | cons t ts =>
          by_cases h : s = t
          · subst h
            rw [textsLe, if_pos rfl] at hst hts
            rw [ih hst hts]
          · rw [textsLe, if_neg h] at hst
            rw [textsLe, if_neg (Ne.symm h)] at hts
            exact absurd (horder.antisymm s t hst hts) h

theorem comesFirst_total (a b : Rank) :
    comesFirst collation a b = true ∨ comesFirst collation b a = true := by
  have htexts := textsLe_total horder a.2 b.2
  simp only [comesFirst, Bool.or_eq_true, Bool.and_eq_true, decide_eq_true_eq]
  rcases lt_trichotomy a.1 b.1 with h | h | h
  · exact .inr (.inl h)
  · simpa [h] using htexts.symm
  · exact .inl (.inl h)

theorem comesFirst_trans {a b c : Rank} (hab : comesFirst collation a b = true)
    (hbc : comesFirst collation b c = true) : comesFirst collation a c = true := by
  simp only [comesFirst, Bool.or_eq_true, Bool.and_eq_true, decide_eq_true_eq] at *
  rcases hab with hab | ⟨hab, htexts⟩
  · rcases hbc with hbc | ⟨hbc, -⟩
    · exact .inl (hbc.trans hab)
    · exact .inl (hbc ▸ hab)
  · rcases hbc with hbc | ⟨hbc, htexts'⟩
    · exact .inl (hab ▸ hbc)
    · exact .inr ⟨hbc.trans hab, textsLe_trans horder htexts' htexts⟩

theorem comesFirst_antisymm {a b : Rank} (hab : comesFirst collation a b = true)
    (hba : comesFirst collation b a = true) : a = b := by
  simp only [comesFirst, Bool.or_eq_true, Bool.and_eq_true, decide_eq_true_eq] at *
  have htimes : a.1 = b.1 := by
    rcases hab with hab | ⟨hab, -⟩ <;> rcases hba with hba | ⟨hba, -⟩
    · exact absurd hab (lt_asymm hba)
    · exact hba
    · exact hab.symm
    · exact hba
  have htexts : textsLe collation b.2 a.2 = true ∧ textsLe collation a.2 b.2 = true := by
    simp only [htimes, lt_irrefl, false_or, true_and] at hab hba
    exact ⟨hab, hba⟩
  exact Prod.ext htimes (textsLe_antisymm horder htexts.2 htexts.1)

/-- The greatest record is one of the records and comes before all of them. -/
theorem greatest_spec {ρ : Type} (rank : ρ → Rank) (records : List ρ) :
    (records = [] ∧ greatest collation rank records = none) ∨
      ∃ m ∈ records, greatest collation rank records = some m ∧
        ∀ x ∈ records, comesFirst collation (rank m) (rank x) = true := by
  have htotal : Std.Total fun a b : ρ => comesFirst collation (rank a) (rank b) = true :=
    ⟨fun a b => comesFirst_total horder _ _⟩
  have htrans : IsTrans ρ fun a b : ρ => comesFirst collation (rank a) (rank b) = true :=
    ⟨fun a b c => comesFirst_trans horder⟩
  cases records with
  | nil => exact .inl ⟨rfl, rfl⟩
  | cons r records =>
      obtain ⟨m, hm⟩ := exists_head?_insertionSort (l := r :: records)
        (r := fun a b => comesFirst collation (rank a) (rank b) = true) List.mem_cons_self
      refine .inr ⟨m, mem_of_head?_insertionSort hm, hm, fun x hx => ?_⟩
      exact head?_insertionSort_le (r := fun a b => comesFirst collation (rank a) (rank b) = true)
        hm hx

/-- Only one rank comes before all the others. -/
theorem greatest_rank {ρ : Type} {rank : ρ → Rank} {records : List ρ} {m : ρ} (hm : m ∈ records)
    (hfirst : ∀ x ∈ records, comesFirst collation (rank m) (rank x) = true) :
    ∃ x ∈ records, greatest collation rank records = some x ∧ rank x = rank m := by
  rcases greatest_spec horder rank records with ⟨hnil, -⟩ | ⟨x, hx, heq, hall⟩
  · rw [hnil] at hm
    cases hm
  · exact ⟨x, hx, heq, comesFirst_antisymm horder (hall m hm) (hfirst x hx)⟩

end Order

/-- The greatest of the images of some records, which keep their ranks. -/
theorem greatest_map {ρ ρ' : Type} (collation : Collation) {rank : ρ → Rank} {rank' : ρ' → Rank}
    {f : ρ → ρ'} (records : List ρ) (hrank : ∀ x ∈ records, rank' (f x) = rank x) :
    greatest collation rank' (records.map f) = (greatest collation rank records).map f := by
  unfold greatest
  rw [← List.head?_map, List.map_insertionSort
    (r := fun a b => comesFirst collation (rank a) (rank b) = true)
    (s := fun a b => comesFirst collation (rank' a) (rank' b) = true)]
  intro a ha b hb
  rw [hrank a ha, hrank b hb]

/-! ## Operations -/

namespace Memory
variable (s : Memory)

/-- `checkpoint_key`. -/
def checkpointKey (batch : ProjectionBatch) : String × SourceMode × String :=
  (batch.siteId, batch.sourceMode, batch.checkpoint)

/-- The batches that were accepted, in the order they arrived. -/
def accepted (s : Memory) : List ProjectionBatch := s.batches.values

def modeConflict : Raise :=
  .validationError "synthetic and live projection modes are mutually exclusive per site"

def batchConflict : Raise :=
  .immutableConflict "batch_id was reused with different immutable content"

def checkpointConflict : Raise :=
  .immutableConflict "checkpoint was already recorded by another batch"

/-- The state with one batch more. -/
def recorded (batch : ProjectionBatch) : Memory where
  batches := s.batches.set (batch.siteId, batch.batchId) batch
  rowIds := batch.rows.foldl (fun rowIds row =>
    rowIds.set (batch.siteId, row.rowId) (batch.batchId, row)) s.rowIds
  checkpoints := s.checkpoints.set (batch.siteId, batch.sourceMode) batch.checkpoint
  checkpointBatches := s.checkpointBatches.set (checkpointKey batch) batch.batchId

/-- `append_batch`. -/
def appendBatch (batch : ProjectionBatch) : MemoryOp ProjectionBatch := do
  let s ← get
  match s.batches.get? (batch.siteId, batch.batchId) with
  | some existing =>
      if !existing.eq batch then throw batchConflict
      return existing
  | none =>
      if s.accepted.any fun existing =>
          existing.siteId = batch.siteId && existing.sourceMode ≠ batch.sourceMode then
        throw modeConflict
      if (s.checkpointBatches.get? (checkpointKey batch)).isSome then throw checkpointConflict
      if batch.rows.any fun row => (s.rowIds.get? (batch.siteId, row.rowId)).isSome then
        throw (.immutableConflict "row_id was already used by another immutable batch")
      set (s.recorded batch)
      return batch

/-- The rows that a query asks for; a naive bound of the window equals no other time. -/
def isAskedFor (query : ProjectionQuery) (row : ProjectionRow) : Bool :=
  row.metricKey = query.metricKey &&
    query.windowStart.any (row.windowStart.instant = ·.instant) &&
    query.windowEnd.any (row.windowEnd.instant = ·.instant)

/-- `candidates`. -/
def candidates (query : ProjectionQuery) : List StoredProjection :=
  (s.accepted.filter fun batch =>
      batch.siteId = query.siteId && batch.sourceMode = query.sourceMode).flatMap fun batch =>
    (batch.rows.filter (isAskedFor query)).map fun row => ⟨batch, row⟩

end Memory

/-- The key that a projection is chosen by. -/
def StoredProjection.rank (found : StoredProjection) : Rank :=
  (found.batch.retrievedAt.instant, [found.batch.batchId, found.row.rowId])

namespace Memory

/-- `find_projection`: texts are compared by code points. -/
def findProjection (query : ProjectionQuery) : MemoryOp (Option StoredProjection) :=
  return greatest codePoints StoredProjection.rank ((← get).candidates query)

/-- `checkpoint`. -/
def checkpoint (siteId : String) (sourceMode : SourceMode) : MemoryOp (Option String) :=
  return (← getThe Memory).checkpoints.get? (siteId, sourceMode)

/-! ## The repository as a machine -/

def perform : Call → MemoryOp Answer
  | .appendBatch batch => .batch <$> appendBatch batch
  | .findProjection query => .projection <$> findProjection query
  | .checkpoint siteId sourceMode => .checkpoint <$> checkpoint siteId sourceMode

def machine : Machine Memory Call (Except Raise Answer) where
  step s c := (perform c).run s

end Memory
end EsanGbos.Metrics
