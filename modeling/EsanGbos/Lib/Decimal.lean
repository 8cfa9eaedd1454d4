import Mathlib.Data.List.Basic
import Mathlib.Data.List.TakeWhile
import Mathlib.Algebra.Ring.Int.Defs
import Mathlib.Data.Int.Order.Basic

/-!
# Finite decimal numbers

A finite decimal is a sign, a coefficient and an exponent of ten, so that 1.0 and
1.00 are different numbers with one value. `eq` compares the values; `text` is the
scientific notation, which keeps the three parts apart. `read` takes a numeral for its value.

## Main definitions

* `Decimal.eq` — numeric equality.
* `Decimal.read`, `Decimal.inUnit` — the decimal of a numeral, and a range of values.
* `Decimal.text` — `str(d)`; `Decimal.text_injective` says that it loses nothing.
-/
namespace Lib

@[ext] structure Decimal where
  negative : Bool
  coefficient : ℕ
  exponent : ℤ
deriving DecidableEq, Repr

namespace Decimal

/-- The value in units of `10 ^ e`, for `e` at most the exponent. -/
def scaled (d : Decimal) (e : ℤ) : ℤ :=
  (if d.negative then -1 else 1) * d.coefficient * 10 ^ (d.exponent - e).toNat

/-- `a == b`: the values agree in the smaller of the two units. -/
def eq (a b : Decimal) : Bool :=
  a.scaled (min a.exponent b.exponent) = b.scaled (min a.exponent b.exponent)

@[simp] theorem eq_self (a : Decimal) : a.eq a = true := by simp [eq]

/-- The value lies between 0 and 1. -/
def inUnit (d : Decimal) : Bool :=
  let e := min d.exponent 0
  0 ≤ d.scaled e && d.scaled e ≤ 10 ^ (-e).toNat

/-- The part of a numeral after its fraction: an exponent, or nothing. -/
def readExponent : List Char → Option ℤ
  | [] => some 0
  | c :: '-' :: s => if (c = 'e' || c = 'E') && s.all Char.isDigit && s ≠ [] then
      some (-(Nat.ofDigitChars 10 s 0)) else none
  | c :: s =>
      let s := if s.head? = some '+' then s.tail else s
      if (c = 'e' || c = 'E') && s.all Char.isDigit && s ≠ [] then
        some (Nat.ofDigitChars 10 s 0) else none

/-- The decimal that a numeral spells; none for the name of a non-finite value. -/
def read (s : List Char) : Option Decimal := do
  let unsigned := if s.head? = some '-' then s.tail else s
  let whole := unsigned.takeWhile Char.isDigit
  let rest := unsigned.dropWhile Char.isDigit
  let fraction := if rest.head? = some '.' then rest.tail.takeWhile Char.isDigit else []
  let rest := if rest.head? = some '.' then rest.tail.dropWhile Char.isDigit else rest
  if whole = [] then none
  let exponent ← readExponent rest
  return ⟨s.head? = some '-', Nat.ofDigitChars 10 (whole ++ fraction) 0,
    exponent - fraction.length⟩

/-! ## The text -/

variable (d : Decimal)

def digits : List Char := Nat.toDigits 10 d.coefficient

/-- The number of digits before the point, when no exponent is written. -/
def leftdigits : ℤ := d.exponent + d.digits.length

/-- Where the point goes: an exponent is written for positive ones and for values
with more than five zeros after the point. -/
def dotplace : ℤ := if d.exponent ≤ 0 ∧ -6 < d.leftdigits then d.leftdigits else 1

def intpart : List Char :=
  if d.dotplace ≤ 0 then ['0']
  else if d.digits.length ≤ d.dotplace then
    d.digits ++ List.replicate (d.dotplace - d.digits.length).toNat '0'
  else d.digits.take d.dotplace.toNat

def fracpart : List Char :=
  if d.dotplace ≤ 0 then List.replicate (-d.dotplace).toNat '0' ++ d.digits
  else if d.digits.length ≤ d.dotplace then []
  else d.digits.drop d.dotplace.toNat

/-- An integer with its sign always written. -/
def signed (x : ℤ) : List Char := (if x < 0 then '-' else '+') :: Nat.toDigits 10 x.natAbs

/-- The marker `c` and the text after it, unless that is empty. -/
def marked (c : Char) (s : List Char) : List Char := if s = [] then [] else c :: s

/-- `str(d)`. -/
def text : List Char :=
  (if d.negative then ['-'] else []) ++ ((d.intpart ++ marked '.' d.fracpart) ++
    marked 'E' (if d.leftdigits = d.dotplace then [] else signed (d.leftdigits - d.dotplace)))

/-! ## The text determines the number -/

variable {d}

theorem digits_ne_nil : d.digits ≠ [] := Nat.toDigits_ne_nil

theorem length_digits_pos : 0 < d.digits.length := List.length_pos_iff.mpr digits_ne_nil

theorem isDigit_of_mem_digits {c : Char} (h : c ∈ d.digits) : c.isDigit = true :=
  Nat.isDigit_of_mem_toDigits (by decide) (by decide) h

/-- The digits before and after the point spell the coefficient. -/
theorem ofDigitChars_parts : Nat.ofDigitChars 10 (d.intpart ++ d.fracpart) 0 = d.coefficient := by
  have hpos := length_digits_pos (d := d)
  have hdigits : Nat.ofDigitChars 10 d.digits 0 = d.coefficient := Nat.ofDigitChars_ten_toDigits
  unfold intpart fracpart
  split
  next =>
    have hzero : ('0' :: List.replicate (-d.dotplace).toNat '0')
        = List.replicate ((-d.dotplace).toNat + 1) '0' := rfl
    rw [List.singleton_append, ← List.cons_append, hzero, Nat.ofDigitChars_append,
      Nat.ofDigitChars_replicate_zero, Nat.mul_zero, hdigits]
  next hdot =>
    split
    next hlen =>
      have hle : d.dotplace ≤ d.digits.length := by
        unfold dotplace leftdigits
        split <;> omega
      have hz : (d.dotplace - d.digits.length).toNat = 0 := by omega
      rw [hz, List.replicate_zero, List.append_nil, List.append_nil, hdigits]
    next => rw [List.take_append_drop, hdigits]

/-- The exponent written and the digits after the point give the exponent. -/
theorem exponent_eq : d.exponent = d.leftdigits - d.dotplace - d.fracpart.length := by
  have hpos := length_digits_pos (d := d)
  unfold fracpart dotplace leftdigits
  split
  next hcase =>
    split
    next => simp; omega
    next =>
      split
      next => simp; omega
      next => rw [List.length_drop]; omega
  next hcase =>
    split
    next => omega
    next =>
      split
      next => simp; omega
      next => rw [List.length_drop]; omega

theorem isDigit_of_mem_intpart {c : Char} (h : c ∈ d.intpart) : c.isDigit = true := by
  unfold intpart at h
  split at h
  next => simp at h; subst h; rfl
  next =>
    split at h
    next =>
      rcases List.mem_append.mp h with h | h
      · exact isDigit_of_mem_digits h
      · rw [List.eq_of_mem_replicate h]; rfl
    next => exact isDigit_of_mem_digits (List.mem_of_mem_take h)

theorem isDigit_of_mem_fracpart {c : Char} (h : c ∈ d.fracpart) : c.isDigit = true := by
  unfold fracpart at h
  split at h
  next =>
    rcases List.mem_append.mp h with h | h
    · rw [List.eq_of_mem_replicate h]; rfl
    · exact isDigit_of_mem_digits h
  next =>
    split at h
    next => simp at h
    next => exact isDigit_of_mem_digits (List.mem_of_mem_drop h)

theorem intpart_ne_nil : d.intpart ≠ [] := by
  have hpos := length_digits_pos (d := d)
  unfold intpart
  split
  next => simp
  next =>
    split
    next => simp [digits_ne_nil]
    next => simp [digits_ne_nil]; omega

/-- A prefix of characters that satisfy `p`, up to one that does not, is determined. -/
theorem append_inj_of_stop {α : Type*} (p : α → Bool) {l l' r r' : List α}
    (hl : ∀ c ∈ l, p c = true) (hl' : ∀ c ∈ l', p c = true) (hr : ∀ c ∈ r.head?, p c = false)
    (hr' : ∀ c ∈ r'.head?, p c = false) (h : l ++ r = l' ++ r') : l = l' ∧ r = r' := by
  have hstop : ∀ {r : List α}, (∀ c ∈ r.head?, p c = false) → r.takeWhile p = [] := by
    intro r hr
    cases r with
    | nil => rfl
    | cons c r => simp [hr c (by simp)]
  have htake := congrArg (List.takeWhile p) h
  rw [List.takeWhile_append_of_pos hl, List.takeWhile_append_of_pos hl', hstop hr, hstop hr',
    List.append_nil, List.append_nil] at htake
  subst htake
  exact ⟨rfl, List.append_cancel_left h⟩

theorem marked_head {c : Char} {s : List Char} {x : Char} (h : x ∈ (marked c s).head?) : x = c := by
  unfold marked at h
  split at h <;> simp_all

theorem marked_inj {c : Char} {s s' : List Char} (h : marked c s = marked c s') : s = s' := by
  unfold marked at h
  split at h <;> split at h <;> simp_all

theorem signed_inj {x y : ℤ} (h : signed x = signed y) : x = y := by
  obtain ⟨hsign, hdigits⟩ := List.cons.inj h
  have habs : x.natAbs = y.natAbs := by
    have := congrArg (Nat.ofDigitChars 10 · 0) hdigits
    simpa only [Nat.ofDigitChars_ten_toDigits] using this
  have hneg : x < 0 ↔ y < 0 := by
    split at hsign <;> split at hsign <;> first | omega | exact absurd hsign (by decide)
  omega

theorem text_injective : Function.Injective text := by
  intro d d' h
  have hdig : ∀ {c : Char}, c.isDigit = true → c ≠ '-' ∧ c ≠ '.' ∧ c ≠ 'E' := by
    rintro c hc
    refine ⟨?_, ?_, ?_⟩ <;> rintro rfl <;> exact absurd hc (by decide)
  have hhead : ∀ (e : Decimal) (r : List Char), ∀ c ∈ ((e.intpart ++ r).head?), c.isDigit = true := by
    intro e r c hc
    rw [List.head?_append_of_ne_nil _ intpart_ne_nil] at hc
    exact isDigit_of_mem_intpart (List.mem_of_head? hc)
  have hmant : ∀ (e : Decimal), ∀ c ∈ e.intpart ++ marked '.' e.fracpart, (c != 'E') = true := by
    intro e c hc
    rcases List.mem_append.mp hc with hc | hc
    · simpa using (hdig (isDigit_of_mem_intpart hc)).2.2
    · unfold marked at hc
      split at hc
      · simp at hc
      · rcases List.mem_cons.mp hc with rfl | hc
        · decide
        · simpa using (hdig (isDigit_of_mem_fracpart hc)).2.2
  unfold text at h
  obtain ⟨hsign, h⟩ := append_inj_of_stop (· == '-') (by split <;> simp) (by split <;> simp)
    (fun c hc => by
      rw [List.append_assoc] at hc; simpa using (hdig (hhead _ _ c hc)).1)
    (fun c hc => by
      rw [List.append_assoc] at hc; simpa using (hdig (hhead _ _ c hc)).1) h
  obtain ⟨hmantissa, hexp⟩ := append_inj_of_stop (· != 'E') (hmant d) (hmant d')
    (fun c hc => by simp [marked_head hc]) (fun c hc => by simp [marked_head hc]) h
  obtain ⟨hint, hfrac⟩ := append_inj_of_stop (· != '.')
    (fun c hc => by simpa using (hdig (isDigit_of_mem_intpart hc)).2.1)
    (fun c hc => by simpa using (hdig (isDigit_of_mem_intpart hc)).2.1)
    (fun c hc => by simp [marked_head hc]) (fun c hc => by simp [marked_head hc]) hmantissa
  have hfrac := marked_inj hfrac
  have hshift : d.leftdigits - d.dotplace = d'.leftdigits - d'.dotplace := by
    have hexp := marked_inj hexp
    split at hexp <;> split at hexp
    · omega
    · simp [signed] at hexp
    · simp [signed] at hexp
    · exact signed_inj hexp
  have hcoeff : d.coefficient = d'.coefficient := by
    rw [← ofDigitChars_parts (d := d), ← ofDigitChars_parts (d := d'), hint, hfrac]
  have hexponent : d.exponent = d'.exponent := by
    rw [exponent_eq, exponent_eq (d := d'), hshift, hfrac]
  have hnegative : d.negative = d'.negative := by
    cases hn : d.negative <;> cases hn' : d'.negative <;> simp [hn, hn'] at hsign ⊢
  exact Decimal.ext hnegative hcoeff hexponent

end Decimal
end Lib
