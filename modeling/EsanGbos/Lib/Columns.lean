import Mathlib.Tactic.FieldSimp
import EsanGbos.Lib.Rounding

/-!
# Values of database columns

A text column holds no null character, an integer column holds integers of a fixed width, and a
`numeric` column holds decimals of bounded length, without an exponent above zero.

## Main definitions

* `isText`, `lengthIn`, `isInteger`, `isBigint` — what fits a column.
* `numericOf` — what a `numeric` column keeps of a decimal; `numericOf_eq` says that it is the value.
-/
namespace Lib

/-- The text has no null character. -/
def isText (s : String) : Bool := !s.toList.contains '\x00'

/-- The length of the text lies in a range. -/
def lengthIn (minimum maximum : ℕ) (s : String) : Bool :=
  minimum ≤ s.length && s.length ≤ maximum

/-- An `integer` has 32 bits. -/
def isInteger (i : ℤ) : Bool := -2 ^ 31 ≤ i && i < 2 ^ 31

/-- A `bigint` has 64 bits. -/
def isBigint (i : ℤ) : Bool := -2 ^ 63 ≤ i && i < 2 ^ 63

/-- The decimal as a `numeric` keeps it: without an exponent above zero and without a negative
zero. It has room for 131072 digits before the point and 16383 after it. -/
def numericOf (d : Decimal) : Option Decimal :=
  if d.exponent < -16383 ∨ d.coefficient ≠ 0 ∧ 131072 < d.leftdigits then none
  else if d.coefficient = 0 then some ⟨false, 0, min d.exponent 0⟩
  else some ⟨d.negative, d.coefficient * 10 ^ d.exponent.toNat, min d.exponent 0⟩

theorem numericOf_eq {d n : Decimal} (h : numericOf d = some n) : d.eq n = true := by
  unfold numericOf at h
  split at h
  · cases h
  · rename_i hfits
    have hshift : (d.exponent - min d.exponent (min d.exponent 0)).toNat = d.exponent.toNat := by
      omega
    split at h
    · rename_i hzero
      obtain rfl := Option.some.inj h
      simp [Decimal.eq, Decimal.scaled, hzero]
    · obtain rfl := Option.some.inj h
      simp only [Decimal.eq, Decimal.scaled, decide_eq_true_eq, hshift]
      have hsame : (min d.exponent 0 - min d.exponent (min d.exponent 0)).toNat = 0 := by omega
      rw [hsame, pow_zero, mul_one, Nat.cast_mul, Nat.cast_pow, mul_assoc]
      rfl

/-- A `numeric` has no negative zero. -/
theorem numericOf_negative {d n : Decimal} (h : numericOf d = some n)
    (hd : d.negative = false ∨ d.coefficient = 0) : n.negative = false := by
  unfold numericOf at h
  split at h
  · cases h
  · split at h
    · obtain rfl := Option.some.inj h
      rfl
    · rename_i hzero
      obtain rfl := Option.some.inj h
      exact hd.resolve_right hzero

end Lib
