import Mathlib.Data.List.Range
import Mathlib.Tactic.Common

/-!
# Leased work

A piece of work is handed out under a lease, each time as its next attempt, and at most as often as
a maximum allows. The last holder renews the lease, completes the work with a receipt, or gives it
up; where the lease lapses the work is handed out again, or is given up for good after the last
attempt. A completed piece of work answers every further completion with its receipt.

## Main definitions

* `Phase`, `Event` — where a piece of work is, and what is seen of it.
* `Step`, `Runs` — the protocol.

## Main results

* `Runs.takes_eq` — attempts are handed out one after the other.
* `Runs.holder` — who renews or gives up is the last holder.
* `Runs.completed` — a completion is by the last holder, or repeats an earlier one.
* `Runs.eq_done`, `Runs.over` — there is one receipt, and nothing else follows it.
-/
namespace Lib.Lease

variable {ω ρ : Type}

inductive Phase (ω ρ : Type) where
  | absent
  | waiting (attempts : ℕ)
  | held (attempt : ℕ) (worker : ω)
  | done (receipt : ρ)
  | dead

/-- Attempts are integers here, since a worker may give any. -/
inductive Event (ω ρ : Type) where
  | added
  | taken (attempt : ℤ) (worker : ω)
  | renewed (attempt : ℤ) (worker : ω)
  | failed (attempt : ℤ) (worker : ω)
  | completed (attempt : ℤ) (worker : ω) (receipt : ρ)

/-- One step, and what is seen of it. -/
inductive Step (max : ℕ) : Phase ω ρ → Option (Event ω ρ) → Phase ω ρ → Prop
  | add : Step max .absent (some .added) (.waiting 0)
  | take {n : ℕ} (w : ω) (h : n < max) :
      Step max (.waiting n) (some (.taken ((n : ℤ) + 1) w)) (.held (n + 1) w)
  /-- The lease of another holder has lapsed. -/
  | retake {n : ℕ} {v : ω} (w : ω) (h : n < max) :
      Step max (.held n v) (some (.taken ((n : ℤ) + 1) w)) (.held (n + 1) w)
  | renew (n : ℕ) (w : ω) : Step max (.held n w) (some (.renewed n w)) (.held n w)
  | retry {n : ℕ} (w : ω) (h : n < max) : Step max (.held n w) (some (.failed n w)) (.waiting n)
  | bury {n : ℕ} (w : ω) (h : max ≤ n) : Step max (.held n w) (some (.failed n w)) .dead
  | lapse {n : ℕ} (w : ω) (h : max ≤ n) : Step max (.held n w) none .dead
  | complete (n : ℕ) (w : ω) (r : ρ) : Step max (.held n w) (some (.completed n w r)) (.done r)
  | again (n : ℤ) (w : ω) (r : ρ) : Step max (.done r) (some (.completed n w r)) (.done r)

/-- The events of a run, from the beginning. -/
inductive Runs (max : ℕ) : List (Event ω ρ) → Phase ω ρ → Prop
  | start : Runs max [] .absent
  | step {es : List (Event ω ρ)} {p q : Phase ω ρ} {e : Option (Event ω ρ)} (h : Runs max es p)
      (hstep : Step max p e q) : Runs max (es ++ e.toList) q

/-! ## What has been seen -/

def take? : Event ω ρ → Option (ℤ × ω)
  | .taken n w => some (n, w)
  | _ => none

def receipt? : Event ω ρ → Option ρ
  | .completed _ _ r => some r
  | _ => none

/-- The attempts that were handed out, and to whom. -/
def takes (es : List (Event ω ρ)) : List (ℤ × ω) := es.filterMap take?

def receipts (es : List (Event ω ρ)) : List ρ := es.filterMap receipt?

@[simp] theorem takes_nil : takes ([] : List (Event ω ρ)) = [] := rfl
@[simp] theorem receipts_nil : receipts ([] : List (Event ω ρ)) = [] := rfl

@[simp] theorem takes_append (es es' : List (Event ω ρ)) :
    takes (es ++ es') = takes es ++ takes es' := List.filterMap_append

@[simp] theorem receipts_append (es es' : List (Event ω ρ)) :
    receipts (es ++ es') = receipts es ++ receipts es' := List.filterMap_append

/-- The first attempts. -/
def attempts (n : ℕ) : List ℤ := (List.range n).map fun i : ℕ => (i : ℤ) + 1

/-- These attempts have been handed out. -/
structure Numbered (max : ℕ) (es : List (Event ω ρ)) (n : ℕ) : Prop where
  takes : (takes es).map Prod.fst = attempts n
  le : n ≤ max

/-- What the events say of the phase. -/
inductive Tells (max : ℕ) (es : List (Event ω ρ)) : Phase ω ρ → Prop
  | absent (h : es = []) : Tells max es .absent
  | waiting {n : ℕ} (h : Numbered max es n) (hopen : receipts es = []) : Tells max es (.waiting n)
  | held {n : ℕ} {w : ω} (h : Numbered max es n) (hopen : receipts es = [])
      (hlast : (takes es).getLast? = some ((n : ℤ), w)) : Tells max es (.held n w)
  | done {n : ℕ} {r : ρ} (h : Numbered max es n) (hreceipt : r ∈ receipts es)
      (honly : ∀ r' ∈ receipts es, r' = r) : Tells max es (.done r)
  | dead {n : ℕ} (h : Numbered max es n) (hopen : receipts es = []) : Tells max es .dead

section Tells
variable {max n : ℕ} {es : List (Event ω ρ)} {p q : Phase ω ρ}

theorem Numbered.take (h : Numbered max es n) (w : ω) (hn : n < max) :
    Numbered max (es ++ [.taken ((n : ℤ) + 1) w]) (n + 1) := by
  refine ⟨?_, hn⟩
  rw [takes_append, List.map_append, h.takes, attempts, attempts, List.range_succ, List.map_append]
  rfl

/-- What is no hand-out leaves the numbers alone. -/
theorem Numbered.append (h : Numbered max es n) {e : Event ω ρ} (he : take? e = none) :
    Numbered max (es ++ [e]) n := by
  refine ⟨?_, h.le⟩
  rw [takes_append, ← h.takes]
  simp [Lease.takes, he]

theorem getLast?_takes_append (es : List (Event ω ρ)) {e : Event ω ρ} (he : take? e = none) :
    (takes (es ++ [e])).getLast? = (takes es).getLast? := by
  rw [takes_append]
  simp [takes, he]

theorem receipts_append_of_none (h : receipts es = []) {e : Event ω ρ} (he : receipt? e = none) :
    receipts (es ++ [e]) = [] := by
  rw [receipts_append, h]
  simp [receipts, he]

theorem Tells.step {e : Option (Event ω ρ)} (h : Tells max es p) (hstep : Step max p e q) :
    Tells max (es ++ e.toList) q := by
  cases hstep with
  | add =>
      cases h with
      | absent hes =>
          subst hes
          exact .waiting ⟨rfl, Nat.zero_le _⟩ rfl
  | take w hn =>
      cases h with
      | waiting hnum hopen =>
          refine .held (hnum.take w hn) (receipts_append_of_none hopen rfl) ?_
          simp [takes, take?]
  | retake w hn =>
      cases h with
      | held hnum hopen _ =>
          refine .held (hnum.take w hn) (receipts_append_of_none hopen rfl) ?_
          simp [takes, take?]
  | renew n w =>
      cases h with
      | held hnum hopen hlast =>
          refine .held (hnum.append rfl) (receipts_append_of_none hopen rfl) ?_
          exact (getLast?_takes_append es rfl).trans hlast
  | retry w hn =>
      cases h with
      | held hnum hopen _ => exact .waiting (hnum.append rfl) (receipts_append_of_none hopen rfl)
  | bury w hn =>
      cases h with
      | held hnum hopen _ => exact .dead (hnum.append rfl) (receipts_append_of_none hopen rfl)
  | lapse w hn =>
      cases h with
      | held hnum hopen _ => exact .dead (by simpa using hnum) (by simpa using hopen)
  | complete n w r =>
      cases h with
      | held hnum hopen _ =>
          have hreceipts : receipts (es ++ [.completed n w r]) = [r] := by
            rw [receipts_append, hopen]
            rfl
          refine .done (r := r) (hnum.append rfl) ?_ fun r' hr' => ?_
          · rw [Option.toList_some, hreceipts]
            exact List.mem_singleton_self r
          · rw [Option.toList_some, hreceipts] at hr'
            exact List.mem_singleton.mp hr'
  | again n w r =>
      cases h with
      | done hnum hreceipt honly =>
          refine .done (hnum.append rfl) ?_ fun r' hr' => ?_
          · simp [hreceipt]
          · rw [Option.toList_some, receipts_append] at hr'
            rcases List.mem_append.mp hr' with hr' | hr'
            · exact honly r' hr'
            · simpa [receipts, receipt?] using hr'

theorem Runs.tells (h : Runs max es p) : Tells max es p := by
  induction h with
  | start => exact .absent rfl
  | step _ hstep ih => exact ih.step hstep

end Tells

/-! ## Results -/

section Results
variable {max : ℕ} {es before after : List (Event ω ρ)} {p : Phase ω ρ}

/-- Before every event of a run there is a run. -/
theorem Runs.exists_step {e : Event ω ρ} (h : Runs max (before ++ e :: after) p) :
    ∃ q q', Runs max before q ∧ Step max q (some e) q' ∧ Runs max (before ++ [e]) q' := by
  generalize hes : before ++ e :: after = es at h
  induction h generalizing after with
  | start => simp at hes
  | @step es q q' e' h hstep ih =>
      cases e' with
      | none => exact ih (by simpa using hes)
      | some e' =>
          rcases List.eq_nil_or_concat after with rfl | ⟨after, last, rfl⟩
          · obtain ⟨rfl, rfl⟩ : before = es ∧ e = e' := by simpa using hes
            exact ⟨q, q', h, hstep, h.step hstep⟩
          · have hes : (before ++ e :: after) ++ [last] = es ++ [e'] := by simpa using hes
            exact ih (List.append_inj_left' hes rfl)

/-- Attempts are handed out one after the other, and none twice. -/
theorem Runs.takes_eq (h : Runs max es p) :
    ∃ n, (takes es).map Prod.fst = attempts n ∧ n ≤ max := by
  cases h.tells with
  | absent hes =>
      subst hes
      exact ⟨0, rfl, Nat.zero_le _⟩
  | waiting hnum _ | held hnum _ _ | done hnum _ _ | dead hnum _ => exact ⟨_, hnum.takes, hnum.le⟩

/-- Who renews a lease or gives the work up is its last holder, and nobody has completed it. -/
theorem Runs.holder {n : ℤ} {w : ω} {e : Event ω ρ} (h : Runs max (before ++ e :: after) p)
    (he : e = .renewed n w ∨ e = .failed n w) :
    (takes before).getLast? = some (n, w) ∧ receipts before = [] := by
  obtain ⟨q, q', hbefore, hstep, -⟩ := h.exists_step
  rcases he with rfl | rfl
  · cases hstep with
    | renew =>
        cases hbefore.tells with
        | held _ hopen hlast => exact ⟨hlast, hopen⟩
  · cases hstep with
    | retry | bury =>
        cases hbefore.tells with
        | held _ hopen hlast => exact ⟨hlast, hopen⟩

/-- A completion is by the last holder, or repeats one that came before. -/
theorem Runs.completed {n : ℤ} {w : ω} {r : ρ} (h : Runs max (before ++ .completed n w r :: after) p) :
    (takes before).getLast? = some (n, w) ∧ receipts before = [] ∨ r ∈ receipts before := by
  obtain ⟨q, q', hbefore, hstep, -⟩ := h.exists_step
  cases hstep with
  | complete =>
      cases hbefore.tells with
      | held _ hopen hlast => exact .inl ⟨hlast, hopen⟩
  | again =>
      cases hbefore.tells with
      | done _ hreceipt _ => exact .inr hreceipt

/-- A run with a receipt has ended with it. -/
theorem Runs.eq_done (h : Runs max es p) {r : ρ} (hr : r ∈ receipts es) : p = .done r := by
  cases h.tells with
  | absent hes =>
      subst hes
      cases hr
  | waiting _ hopen | held _ hopen _ | dead _ hopen =>
      rw [hopen] at hr
      cases hr
  | done _ _ honly => rw [honly r hr]

/-- After a completion there are only its repetitions. -/
theorem Runs.over {e : Event ω ρ} (h : Runs max (before ++ e :: after) p)
    (hbefore : receipts before ≠ []) : receipt? e ≠ none := by
  obtain ⟨q, q', hrun, hstep, -⟩ := h.exists_step
  cases hrun.tells with
  | absent hes =>
      subst hes
      exact absurd rfl hbefore
  | waiting _ hopen | held _ hopen _ | dead _ hopen => exact absurd hopen hbefore
  | done => cases hstep; exact Option.some_ne_none _

end Results
end Lib.Lease
