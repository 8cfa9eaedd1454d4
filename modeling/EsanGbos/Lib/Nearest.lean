import Mathlib.Algebra.Order.Field.Rat
import Mathlib.Data.Int.Log
import Mathlib.Data.Rat.Floor
import Mathlib.Tactic.FieldSimp
import Mathlib.Tactic.Linarith
import Mathlib.Tactic.NormNum
import Mathlib.Tactic.Positivity
import Mathlib.Tactic.Ring

/-!
# The nearest number of a format

A format holds the numbers of a bounded count of digits to some base. Rounding takes the nearest of
them, and of two the even one. A threshold is reached by the rounded number exactly if the number
itself reaches the middle between the two neighbours of the threshold.

## Main definitions

* `nearest` — the nearest integer.
* `Format.round` — the nearest number of a format; `binary64` is one.
* `Format.Reaches` — the number is not below the middle.

## Main results

* `Format.le_round_iff`, `Format.lt_round_iff` — which numbers round to a threshold or past it.
-/
namespace Lib

/-- The nearest integer, and of two the even one. -/
def nearest (q : ℚ) : ℤ :=
  let rest := q - ⌊q⌋
  if 1 / 2 < rest ∨ rest = 1 / 2 ∧ ⌊q⌋ % 2 = 1 then ⌊q⌋ + 1 else ⌊q⌋

theorem le_nearest_iff {n : ℤ} {q : ℚ} :
    n ≤ nearest q ↔ (n : ℚ) - 1 / 2 < q ∨ (n : ℚ) - 1 / 2 = q ∧ n % 2 = 0 := by
  have hle := Int.floor_le q
  have hlt := Int.lt_floor_add_one q
  have hbelow : n ≤ ⌊q⌋ → (n : ℚ) ≤ ⌊q⌋ := fun h => by exact_mod_cast h
  have habove : ⌊q⌋ + 1 ≤ n → (⌊q⌋ : ℚ) + 1 ≤ n := fun h => by exact_mod_cast h
  unfold nearest
  dsimp only
  rcases lt_trichotomy n (⌊q⌋ + 1) with hn | hn | hn
  · have hq := hbelow (by omega)
    have hleft : (n : ℚ) - 1 / 2 < q := by linarith
    refine iff_of_true ?_ (.inl hleft)
    split
    · omega
    · omega
  · have hq : (n : ℚ) = ⌊q⌋ + 1 := by exact_mod_cast hn
    have hparity : n % 2 = 0 ↔ ⌊q⌋ % 2 = 1 := by omega
    rw [hq, hparity]
    by_cases hup : 1 / 2 < q - ⌊q⌋ ∨ q - ⌊q⌋ = 1 / 2 ∧ ⌊q⌋ % 2 = 1
    · rw [if_pos hup]
      refine iff_of_true (by omega) ?_
      rcases hup with hup | ⟨hup, hodd⟩
      · exact .inl (by linarith)
      · exact .inr ⟨by linarith, hodd⟩
    · rw [if_neg hup]
      refine iff_of_false (by omega) ?_
      rintro (hmiddle | ⟨hmiddle, hodd⟩)
      · exact hup (.inl (by linarith))
      · exact hup (.inr ⟨by linarith, hodd⟩)
  · have hq := habove (by omega)
    have hfar : (⌊q⌋ : ℚ) + 2 ≤ n := by exact_mod_cast (by omega : ⌊q⌋ + 2 ≤ n)
    refine iff_of_false ?_ ?_
    · split
      · omega
      · omega
    · rintro (hmiddle | ⟨hmiddle, -⟩)
      · linarith
      · linarith

/-- The numbers of at most `prec` digits to a base, in units from `base ^ etiny` on. -/
structure Format where
  base : ℕ
  prec : ℕ
  etiny : ℤ
  base_gt : 1 < base

namespace Format
variable (F : Format) (t q : ℚ)

/-- The unit of the last digit of a number. -/
def unit : ℚ := (F.base : ℚ) ^ max (Int.log F.base |q| + 1 - F.prec) F.etiny

/-- The nearest number of the format. -/
def round : ℚ := nearest (q / F.unit q) * F.unit q

/-- The number lies above the middle between the multiples `n - 1` and `n` of its unit, or on it
where that rounds to `n`. -/
def Reaches (n : ℤ) : Prop :=
  (n - 1 / 2) * F.unit q < q ∨ (n - 1 / 2) * F.unit q = q ∧ n % 2 = 0

/-- The number is not between the threshold and the middle of the neighbours of the threshold, of
which the upper one is at least the threshold. -/
def ClearOf : Prop := t ≤ q ↔ F.Reaches q ⌈t / F.unit q⌉

/-- The number is not between the threshold and the middle of the neighbours of the threshold, of
which the upper one is above the threshold. -/
def ClearAbove : Prop := t < q ↔ F.Reaches q (⌊t / F.unit q⌋ + 1)

instance (n : ℤ) : Decidable (F.Reaches q n) := by
  unfold Reaches
  infer_instance

variable {F t q}

theorem unit_pos : 0 < F.unit q :=
  zpow_pos (Nat.cast_pos.mpr (Nat.zero_lt_of_lt F.base_gt)) _

theorem le_nearest_iff_reaches {n : ℤ} : n ≤ nearest (q / F.unit q) ↔ F.Reaches q n := by
  have hpos : 0 < F.unit q := unit_pos
  rw [le_nearest_iff, lt_div_iff₀ hpos, eq_div_iff hpos.ne']
  rfl

theorem le_round_iff : t ≤ F.round q ↔ F.Reaches q ⌈t / F.unit q⌉ := by
  rw [← le_nearest_iff_reaches, Int.ceil_le, div_le_iff₀ unit_pos]
  rfl

theorem lt_round_iff : t < F.round q ↔ F.Reaches q (⌊t / F.unit q⌋ + 1) := by
  rw [← le_nearest_iff_reaches, Int.add_one_le_iff, Int.floor_lt, div_lt_iff₀ unit_pos]
  rfl

theorem clearOf_iff : F.ClearOf t q ↔ (t ≤ q ↔ t ≤ F.round q) := by
  rw [le_round_iff]
  rfl

theorem clearAbove_iff : F.ClearAbove t q ↔ (F.round q ≤ t ↔ q ≤ t) := by
  rw [← not_lt, ← @not_lt _ _ t q, lt_round_iff, not_iff_not]
  exact iff_comm

end Format

/-- The numbers of a `float`, but for their bound. -/
def binary64 : Format := ⟨2, 53, -1074, Nat.one_lt_two⟩

end Lib
