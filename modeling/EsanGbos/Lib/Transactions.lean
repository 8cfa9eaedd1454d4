import Mathlib.Logic.Function.Basic

/-!
# Transactions with row locks

Transactions share the committed rows of a store. Each reads the rows as they were when it began,
or as they are now, and sees its own writes. Before it writes a row it locks it, and it keeps its
locks to its end, so that the rows it has locked change by its own commit alone. A transaction may
stop at any point, and then nothing of it remains.

## Main definitions

* `Store` — the committed rows, the locks and the transactions.
* `Store.begin`, `Store.read`, `Store.lock`, `Store.insert`, `Store.write`, `Store.record`,
  `Store.commit`, `Store.rollback`, `Store.stop` — what a transaction does.
* `Store.Step`, `Store.Leaves` — the effect of a step, and what the others keep.

## Main results

* `Store.Step.consistent` — every written row stays locked by its writer.
* `Store.Step.leaves` — a step leaves the others their rows.
-/
namespace Lib

/-- What a transaction sees of the rows that others commit. -/
inductive Isolation where
  | repeatableRead | readCommitted
deriving DecidableEq

/-- A transaction: the rows when it began, what it has written, and what it is to log. -/
structure Tx (κ ν ω : Type) where
  snapshot : κ → Option ν
  writes : κ → Option ν
  logged : List ω

inductive Status (κ ν ω : Type) where
  | fresh
  | active (tx : Tx κ ν ω)
  | closed
  | stopped

/-- Why an operation has no effect. -/
inductive Refusal where
  | ended | locked | duplicate
deriving DecidableEq

/-- The committed rows and their log, who has locked a row, and how far each transaction is. -/
structure Store (ι κ ν ω : Type) where
  rows : κ → Option ν
  log : List ω
  locks : κ → Option ι
  status : ι → Status κ ν ω

variable {ι κ ν ω : Type} [DecidableEq ι] [DecidableEq κ]

def Tx.start (rows : κ → Option ν) : Tx κ ν ω := ⟨rows, fun _ => none, []⟩

def Tx.put (tx : Tx κ ν ω) (k : κ) (v : ν) : Tx κ ν ω :=
  { tx with writes := Function.update tx.writes k (some v) }

def Tx.append (tx : Tx κ ν ω) (w : ω) : Tx κ ν ω := { tx with logged := tx.logged ++ [w] }

namespace Store
variable (s : Store ι κ ν ω) (i : ι)

def setTx (tx : Tx κ ν ω) : Store ι κ ν ω :=
  { s with status := Function.update s.status i (.active tx) }

def holdLock (k : κ) : Store ι κ ν ω := { s with locks := Function.update s.locks k (some i) }

/-- The transaction ends and gives its locks back. -/
def finish (status : Status κ ν ω) : Store ι κ ν ω :=
  { s with
    locks := fun k => if s.locks k = some i then none else s.locks k
    status := Function.update s.status i status }

/-- No other transaction has locked the row. -/
def IsFree (k : κ) : Prop := s.locks k = none ∨ s.locks k = some i

instance (k : κ) : Decidable (s.IsFree i k) := inferInstanceAs (Decidable (_ ∨ _))

/-! ## Operations -/

def begin : Except Refusal Unit × Store ι κ ν ω :=
  match s.status i with
  | .fresh => (.ok (), s.setTx i (.start s.rows))
  | _ => (.error .ended, s)

/-- `select`: the transaction's own write, or what it sees of the committed row. -/
def read (isolation : Isolation) (k : κ) : Except Refusal (Option ν) :=
  match s.status i with
  | .active tx => .ok ((tx.writes k).or
      (match isolation with
        | .repeatableRead => tx.snapshot k
        | .readCommitted => s.rows k))
  | _ => .error .ended

/-- `select … for update`, which reads the row as it is now. -/
def lock (k : κ) : Except Refusal (Option ν) × Store ι κ ν ω :=
  match s.status i with
  | .active tx =>
      if s.IsFree i k then (.ok ((tx.writes k).or (s.rows k)), s.holdLock i k)
      else (.error .locked, s)
  | _ => (.error .ended, s)

/-- `insert`, under a unique key. -/
def insert (k : κ) (v : ν) : Except Refusal Unit × Store ι κ ν ω :=
  match s.status i with
  | .active tx =>
      if s.IsFree i k then
        if ((tx.writes k).or (s.rows k)).isSome then (.error .duplicate, s)
        else (.ok (), (s.holdLock i k).setTx i (tx.put k v))
      else (.error .locked, s)
  | _ => (.error .ended, s)

/-- `update` of a row. -/
def write (k : κ) (v : ν) : Except Refusal Unit × Store ι κ ν ω :=
  match s.status i with
  | .active tx =>
      if s.IsFree i k then (.ok (), (s.holdLock i k).setTx i (tx.put k v)) else (.error .locked, s)
  | _ => (.error .ended, s)

/-- An entry of the log, which is committed with the rows. -/
def record (w : ω) : Except Refusal Unit × Store ι κ ν ω :=
  match s.status i with
  | .active tx => (.ok (), s.setTx i (tx.append w))
  | _ => (.error .ended, s)

def commit : Except Refusal Unit × Store ι κ ν ω :=
  match s.status i with
  | .active tx => (.ok (), { s.finish i .closed with
      rows := fun k => (tx.writes k).or (s.rows k)
      log := s.log ++ tx.logged })
  | _ => (.error .ended, s)

def rollback : Except Refusal Unit × Store ι κ ν ω :=
  match s.status i with
  | .active _ => (.ok (), s.finish i .closed)
  | _ => (.error .ended, s)

/-- The transaction stops, wherever it is. -/
def stop : Store ι κ ν ω := s.finish i .stopped

/-! ## Steps -/

/-- What an operation of a transaction does. -/
inductive Step (i : ι) : Store ι κ ν ω → Store ι κ ν ω → Prop where
  | stay (s : Store ι κ ν ω) : Step i s s
  | begin (s : Store ι κ ν ω) (h : s.status i = .fresh) : Step i s (s.setTx i (.start s.rows))
  | lock (s : Store ι κ ν ω) (k : κ) {tx : Tx κ ν ω} (h : s.status i = .active tx)
      (hfree : s.IsFree i k) : Step i s (s.holdLock i k)
  | put (s : Store ι κ ν ω) (k : κ) (v : ν) {tx : Tx κ ν ω} (h : s.status i = .active tx)
      (hfree : s.IsFree i k) : Step i s ((s.holdLock i k).setTx i (tx.put k v))
  | record (s : Store ι κ ν ω) (w : ω) {tx : Tx κ ν ω} (h : s.status i = .active tx) :
      Step i s (s.setTx i (tx.append w))
  | commit (s : Store ι κ ν ω) {tx : Tx κ ν ω} (h : s.status i = .active tx) :
      Step i s { s.finish i .closed with
        rows := fun k => (tx.writes k).or (s.rows k)
        log := s.log ++ tx.logged }
  | rollback (s : Store ι κ ν ω) {tx : Tx κ ν ω} (h : s.status i = .active tx) :
      Step i s (s.finish i .closed)

theorem step_begin : Step i s (s.begin i).2 := by
  unfold begin
  split
  next h => exact .begin s h
  next => exact .stay s

theorem step_lock (k : κ) : Step i s (s.lock i k).2 := by
  unfold lock
  split
  next h =>
    split
    next hfree => exact .lock s k h hfree
    next => exact .stay s
  next => exact .stay s

theorem step_insert (k : κ) (v : ν) : Step i s (s.insert i k v).2 := by
  unfold insert
  split
  next h =>
    split
    next hfree =>
      split
      next => exact .stay s
      next => exact .put s k v h hfree
    next => exact .stay s
  next => exact .stay s

theorem step_write (k : κ) (v : ν) : Step i s (s.write i k v).2 := by
  unfold write
  split
  next h =>
    split
    next hfree => exact .put s k v h hfree
    next => exact .stay s
  next => exact .stay s

theorem step_record (w : ω) : Step i s (s.record i w).2 := by
  unfold record
  split
  next h => exact .record s w h
  next => exact .stay s

theorem step_commit : Step i s (s.commit i).2 := by
  unfold commit
  split
  next h => exact .commit s h
  next => exact .stay s

theorem step_rollback : Step i s (s.rollback i).2 := by
  unfold rollback
  split
  next h => exact .rollback s h
  next => exact .stay s

/-! ## What holds of all steps -/

/-- Every written row is locked by its writer, and only transactions that go on hold locks. -/
structure Consistent (s : Store ι κ ν ω) : Prop where
  locked : ∀ i tx k, s.status i = .active tx → (tx.writes k).isSome → s.locks k = some i
  held : ∀ i k, s.locks k = some i → ∃ tx, s.status i = .active tx

/-- What a transaction finds as it was, whatever the others do. -/
structure Leaves (i : ι) (s t : Store ι κ ν ω) : Prop where
  status : t.status i = s.status i
  locks : ∀ k, t.locks k = some i ↔ s.locks k = some i
  rows : ∀ k, s.locks k = some i → t.rows k = s.rows k

omit [DecidableEq ι] [DecidableEq κ] in
theorem Leaves.refl (i : ι) (s : Store ι κ ν ω) : Leaves i s s :=
  ⟨rfl, fun _ => Iff.rfl, fun _ _ => rfl⟩

omit [DecidableEq ι] [DecidableEq κ] in
theorem Leaves.trans {i : ι} {s t u : Store ι κ ν ω} (h : Leaves i s t) (h' : Leaves i t u) :
    Leaves i s u where
  status := h'.status.trans h.status
  locks k := (h'.locks k).trans (h.locks k)
  rows k hk := (h'.rows k ((h.locks k).mpr hk)).trans (h.rows k hk)

section Fields
variable {s : Store ι κ ν ω} {i j : ι} {k k' : κ} {tx : Tx κ ν ω} {status : Status κ ν ω}

omit [DecidableEq κ] in
@[simp] theorem status_setTx_self : (s.setTx i tx).status i = .active tx :=
  Function.update_self _ _ _

omit [DecidableEq κ] in
theorem status_setTx_of_ne (h : j ≠ i) : (s.setTx i tx).status j = s.status j :=
  Function.update_of_ne h _ _

omit [DecidableEq κ] in
@[simp] theorem locks_setTx : (s.setTx i tx).locks = s.locks := rfl

omit [DecidableEq κ] in
@[simp] theorem rows_setTx : (s.setTx i tx).rows = s.rows := rfl

omit [DecidableEq κ] in
@[simp] theorem log_setTx : (s.setTx i tx).log = s.log := rfl

omit [DecidableEq ι] in
@[simp] theorem status_holdLock : (s.holdLock i k).status = s.status := rfl

omit [DecidableEq ι] in
@[simp] theorem rows_holdLock : (s.holdLock i k).rows = s.rows := rfl

omit [DecidableEq ι] in
@[simp] theorem log_holdLock : (s.holdLock i k).log = s.log := rfl

omit [DecidableEq ι] in
@[simp] theorem locks_holdLock_self : (s.holdLock i k).locks k = some i :=
  Function.update_self _ _ _

omit [DecidableEq ι] in
theorem locks_holdLock_of_ne (h : k' ≠ k) : (s.holdLock i k).locks k' = s.locks k' :=
  Function.update_of_ne h _ _

omit [DecidableEq κ] in
@[simp] theorem status_finish_self : (s.finish i status).status i = status :=
  Function.update_self _ _ _

omit [DecidableEq κ] in
theorem status_finish_of_ne (h : j ≠ i) : (s.finish i status).status j = s.status j :=
  Function.update_of_ne h _ _

omit [DecidableEq κ] in
@[simp] theorem rows_finish : (s.finish i status).rows = s.rows := rfl

omit [DecidableEq κ] in
@[simp] theorem log_finish : (s.finish i status).log = s.log := rfl

omit [DecidableEq κ] in
/-- The others keep their locks. -/
theorem locks_finish : (s.finish i status).locks k = some j ↔ s.locks k = some j ∧ j ≠ i := by
  simp only [finish]
  by_cases h : s.locks k = some i
  · rw [if_pos h, h]
    constructor
    · intro hnone
      cases hnone
    · rintro ⟨heq, hne⟩
      exact absurd (Option.some.inj heq).symm hne
  · rw [if_neg h]
    exact ⟨fun hlock => ⟨hlock, fun hij => h (hij ▸ hlock)⟩, fun hlock => hlock.1⟩

end Fields

variable {s : Store ι κ ν ω} {i : ι}

omit [DecidableEq κ] in
theorem Consistent.finish (h : Consistent s) {status : Status κ ν ω}
    (hstatus : ∀ tx, status ≠ .active tx) : Consistent (s.finish i status) := by
  constructor
  · intro j tx k hj hwrites
    by_cases hij : j = i
    · subst hij
      rw [status_finish_self] at hj
      exact absurd hj (hstatus tx)
    · rw [status_finish_of_ne hij] at hj
      exact locks_finish.mpr ⟨h.locked j tx k hj hwrites, hij⟩
  · intro j k hlock
    obtain ⟨hlock, hij⟩ := locks_finish.mp hlock
    rw [status_finish_of_ne hij]
    exact h.held j k hlock

omit [DecidableEq κ] in
theorem Consistent.setTx (h : Consistent s) {tx : Tx κ ν ω}
    (hwrites : ∀ k, (tx.writes k).isSome → s.locks k = some i) : Consistent (s.setTx i tx) := by
  constructor
  · intro j tx' k hj hsome
    by_cases hij : j = i
    · subst hij
      rw [status_setTx_self, Status.active.injEq] at hj
      exact hwrites k (hj ▸ hsome)
    · rw [status_setTx_of_ne hij] at hj
      exact h.locked j tx' k hj hsome
  · intro j k hlock
    by_cases hij : j = i
    · subst hij
      exact ⟨tx, status_setTx_self⟩
    · rw [status_setTx_of_ne hij]
      exact h.held j k hlock

omit [DecidableEq ι] in
theorem Consistent.holdLock (h : Consistent s) {tx : Tx κ ν ω} (hactive : s.status i = .active tx)
    {k : κ} (hfree : s.IsFree i k) : Consistent (s.holdLock i k) := by
  constructor
  · intro j tx' k' hj hsome
    have hlock := h.locked j tx' k' hj hsome
    by_cases hk : k' = k
    · subst hk
      rcases hfree with hnone | hown
      · rw [hnone] at hlock
        cases hlock
      · rw [locks_holdLock_self, ← hown, hlock]
    · rw [locks_holdLock_of_ne hk, hlock]
  · intro j k' hlock
    by_cases hk : k' = k
    · subst hk
      rw [locks_holdLock_self, Option.some.injEq] at hlock
      exact ⟨tx, hlock ▸ hactive⟩
    · rw [locks_holdLock_of_ne hk] at hlock
      exact h.held j k' hlock

theorem Step.consistent {t : Store ι κ ν ω} (hstep : Step i s t) (h : Consistent s) :
    Consistent t := by
  cases hstep with
  | stay => exact h
  | begin hfresh => exact h.setTx fun k hk => by simp [Tx.start] at hk
  | lock k hactive hfree => exact h.holdLock hactive hfree
  | put k v hactive hfree =>
    refine (h.holdLock hactive hfree).setTx fun k' hk' => ?_
    by_cases hk : k' = k
    · rw [hk, locks_holdLock_self]
    · rw [locks_holdLock_of_ne hk]
      exact h.locked i _ k' hactive (by simpa [Tx.put, hk] using hk')
  | record w hactive => exact h.setTx fun k hk => h.locked i _ k hactive hk
  | commit hactive =>
    have hclosed : ∀ tx, (.closed : Status κ ν ω) ≠ .active tx := by simp
    obtain ⟨hlocked, hheld⟩ := Consistent.finish (i := i) h hclosed
    exact ⟨hlocked, hheld⟩
  | rollback hactive => exact h.finish (by simp)

omit [DecidableEq κ] in
theorem leaves_finish {j : ι} (hij : j ≠ i) (s : Store ι κ ν ω) (status : Status κ ν ω) :
    Leaves j s (s.finish i status) :=
  ⟨status_finish_of_ne hij, fun _ => locks_finish.trans (and_iff_left hij), fun _ _ => rfl⟩

omit [DecidableEq κ] in
theorem leaves_setTx {j : ι} (hij : j ≠ i) (s : Store ι κ ν ω) (tx : Tx κ ν ω) :
    Leaves j s (s.setTx i tx) :=
  ⟨status_setTx_of_ne hij, fun _ => Iff.rfl, fun _ _ => rfl⟩

omit [DecidableEq ι] in
theorem leaves_holdLock {j : ι} (hij : j ≠ i) {k : κ} (hfree : s.IsFree i k) :
    Leaves j s (s.holdLock i k) := by
  refine ⟨rfl, fun k' => ?_, fun _ _ => rfl⟩
  by_cases hk : k' = k
  · subst hk
    rw [locks_holdLock_self, Option.some.injEq]
    refine ⟨fun heq => absurd heq.symm hij, fun hlock => ?_⟩
    rcases hfree with hnone | hown
    · rw [hnone] at hlock
      cases hlock
    · exact Option.some.inj (hown.symm.trans hlock)
  · rw [locks_holdLock_of_ne hk]

/-- A step leaves the others their transactions, their locks and the rows these protect. -/
theorem Step.leaves {t : Store ι κ ν ω} (hstep : Step i s t) (h : Consistent s) {j : ι}
    (hij : j ≠ i) : Leaves j s t := by
  cases hstep with
  | stay => exact .refl j s
  | begin hfresh => exact leaves_setTx hij s _
  | lock k hactive hfree => exact leaves_holdLock hij hfree
  | put k v hactive hfree => exact (leaves_holdLock hij hfree).trans (leaves_setTx hij _ _)
  | record w hactive => exact leaves_setTx hij s _
  | @commit tx hactive =>
    obtain ⟨hstatus, hlocks, -⟩ := leaves_finish hij s (.closed : Status κ ν ω)
    refine ⟨hstatus, hlocks, fun k hk => ?_⟩
    -- the others have locked the row, so this transaction has not written it
    have hnone : tx.writes k = none := by
      rw [← Option.not_isSome_iff_eq_none]
      intro hsome
      rw [h.locked i tx k hactive hsome, Option.some.injEq] at hk
      exact hij hk.symm
    show (tx.writes k).or (s.rows k) = s.rows k
    rw [hnone, Option.none_or]
  | rollback hactive => exact leaves_finish hij s _

end Store
end Lib
