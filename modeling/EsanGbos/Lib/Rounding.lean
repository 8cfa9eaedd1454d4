import Mathlib.Algebra.Order.Field.Basic
import Mathlib.Data.Nat.Log
import Mathlib.Data.Rat.Cast.Order
import Mathlib.Tactic.FieldSimp
import Mathlib.Tactic.Linarith
import Mathlib.Tactic.NormNum
import Mathlib.Tactic.Positivity
import Mathlib.Tactic.Ring
import Mathlib.Tactic.Zify
import EsanGbos.Lib.Decimal
import EsanGbos.Lib.Nearest

/-!
# Decimal sums of bounded precision

A sum of decimals is rounded to the precision of a context, and rounded again after every term. It
is exact all along exactly if every partial sum fits the context.

## Main definitions

* `Decimal.value` — the rational number.
* `DecimalContext.Fits` — a number that the context can hold.
* `Decimal.add` — `a + b` in a context; no value where it overflows.

## Main results

* `Decimal.round_value_iff` — rounding keeps exactly the numbers that fit.
* `Decimal.sum_exact_iff` — a running sum is exact exactly if the partial sums fit.
-/
namespace Lib

/-- A context that rounds half to even and traps an overflow. -/
structure DecimalContext where
  prec : ℕ
  emin : ℤ
  emax : ℤ
  prec_pos : 0 < prec
  emin_le : emin ≤ emax

namespace DecimalContext
variable (ctx : DecimalContext)

/-- The smallest exponent of a coefficient. -/
def etiny : ℤ := ctx.emin - ctx.prec + 1

/-- The largest exponent of a coefficient with all its digits. -/
def etop : ℤ := ctx.emax - ctx.prec + 1

/-- A number of at most `prec` digits in the range of the exponents. -/
def Fits (q : ℚ) : Prop :=
  ∃ m e : ℤ, |m| < 10 ^ ctx.prec ∧ ctx.etiny ≤ e ∧ e ≤ ctx.etop ∧ q = m * 10 ^ e

theorem etiny_le_etop : ctx.etiny ≤ ctx.etop := by
  have h := ctx.emin_le
  unfold etiny etop
  omega

/-- The numbers of the context, but for their bound. -/
def format : Format := ⟨10, ctx.prec, ctx.etiny, Nat.one_lt_succ_succ 8⟩

theorem fits_zero : ctx.Fits 0 := by
  refine ⟨0, ctx.etiny, ?_, le_rfl, ctx.etiny_le_etop, by simp⟩
  simp

end DecimalContext

namespace Decimal
variable (ctx : DecimalContext)

/-- The number that a decimal stands for. -/
def value (d : Decimal) : ℚ := (if d.negative then -1 else 1) * d.coefficient * 10 ^ d.exponent

/-- `n / 10 ^ k`, rounded half to even. -/
def roundHalfEven (n k : ℕ) : ℕ :=
  let q := n / 10 ^ k
  let r := n % 10 ^ k
  if 10 ^ k < 2 * r ∨ 2 * r = 10 ^ k ∧ q % 2 = 1 then q + 1 else q

/-- The decimal, rounded to the context; no value where that overflows. -/
def round (d : Decimal) : Option Decimal :=
  if d.coefficient = 0 then
    some { d with exponent := min (max d.exponent ctx.etiny) ctx.emax }
  else
    let adjusted := Nat.log 10 d.coefficient + 1 + d.exponent - ctx.prec
    let expMin := max adjusted ctx.etiny
    if ctx.etop < adjusted then none
    else if d.exponent < expMin then
      let q := roundHalfEven d.coefficient (expMin - d.exponent).toNat
      if 10 ^ ctx.prec ≤ q then
        if ctx.etop < expMin + 1 then none else some ⟨d.negative, q / 10, expMin + 1⟩
      else some ⟨d.negative, q, expMin⟩
    else some d

/-- `a + b`; no value where it raises `Overflow`. -/
def add (a b : Decimal) : Option Decimal :=
  let e := min a.exponent b.exponent
  let n := a.scaled e + b.scaled e
  round ctx ⟨n < 0 ∨ n = 0 ∧ a.negative ∧ b.negative, n.natAbs, e⟩

/-! ## Rounding -/

variable {ctx} {a b d d' : Decimal}

theorem roundHalfEven_mul_eq_iff {n k : ℕ} : roundHalfEven n k * 10 ^ k = n ↔ 10 ^ k ∣ n := by
  have hpos : 0 < 10 ^ k := by positivity
  constructor
  · intro h
    exact ⟨roundHalfEven n k, by rw [mul_comm, h]⟩
  · intro h
    have hr : n % 10 ^ k = 0 := Nat.mod_eq_zero_of_dvd h
    have hq : roundHalfEven n k = n / 10 ^ k := by
      unfold roundHalfEven
      dsimp only
      rw [hr, if_neg (by omega)]
    rw [hq, Nat.div_mul_cancel h]

theorem roundHalfEven_le {n k m : ℕ} (h : n < 10 ^ (k + m)) : roundHalfEven n k ≤ 10 ^ m := by
  have hlt : n / 10 ^ k < 10 ^ m := Nat.div_lt_of_lt_mul (by rwa [← pow_add])
  unfold roundHalfEven
  dsimp only
  split
  · omega
  · omega

theorem ten_zpow_pos (e : ℤ) : (0 : ℚ) < 10 ^ e := zpow_pos (by norm_num) e

theorem ten_zpow_mul_pow {e e' : ℤ} {k : ℕ} (h : e' = e + k) :
    (10 : ℚ) ^ e' = 10 ^ e * 10 ^ k := by
  rw [h, zpow_add₀ (by norm_num), zpow_natCast]

/-- Whether the sign is there or not, a value fits. -/
theorem fits_sign_mul {q : ℚ} (negative : Bool) :
    ctx.Fits ((if negative then -1 else 1) * q) ↔ ctx.Fits q := by
  cases negative with
  | false => simp
  | true =>
      have hneg : ∀ {q : ℚ}, ctx.Fits q → ctx.Fits (-q) := by
        rintro q ⟨m, e, hm, hlow, hhigh, rfl⟩
        exact ⟨-m, e, by rwa [abs_neg], hlow, hhigh, by push_cast; ring⟩
      simp only [if_true, neg_one_mul]
      constructor
      · intro h
        simpa using hneg h
      · exact hneg

/-- A coefficient at an exponent of the range. -/
theorem fits_of_lt {c : ℕ} {e : ℤ} (hc : c < 10 ^ ctx.prec) (hlow : ctx.etiny ≤ e)
    (hhigh : e ≤ ctx.etop) : ctx.Fits ((c : ℚ) * 10 ^ e) := by
  refine ⟨c, e, ?_, hlow, hhigh, by push_cast; rfl⟩
  rw [abs_of_nonneg (by positivity)]
  exact_mod_cast hc

/-- A number with more digits than the context holds fits only as a multiple of a larger unit. -/
theorem dvd_of_fits {c k : ℕ} {e : ℤ} (hfits : ctx.Fits ((c : ℚ) * 10 ^ e))
    (hsize : 10 ^ (k + ctx.prec - 1) ≤ c ∨ e + k ≤ ctx.etiny) : 10 ^ k ∣ c := by
  obtain ⟨m, e', hm, hlow, -, hvalue⟩ := hfits
  rcases Nat.eq_zero_or_pos k with rfl | hk
  · exact one_dvd c
  by_cases he : e + k ≤ e'
  · obtain ⟨j, hj⟩ : ∃ j : ℕ, e' = e + (k + j : ℕ) := ⟨(e' - e - k).toNat, by omega⟩
    rw [ten_zpow_mul_pow hj, ← mul_assoc, mul_right_comm] at hvalue
    have hcancel := mul_right_cancel₀ (ten_zpow_pos e).ne' hvalue
    have hint : (c : ℤ) = m * 10 ^ (k + j) := by exact_mod_cast hcancel
    have hdvd : (10 ^ k : ℤ) ∣ c := ⟨m * 10 ^ j, by rw [hint, pow_add]; ring⟩
    exact_mod_cast hdvd
  · exfalso
    -- the coefficient would need more digits than the context holds
    have hlarge := hsize.resolve_right (by omega)
    have hprec := ctx.prec_pos
    by_cases hle : e' ≤ e
    · obtain ⟨j, hj⟩ : ∃ j : ℕ, e = e' + j := ⟨(e - e').toNat, by omega⟩
      rw [ten_zpow_mul_pow hj, mul_comm ((10 : ℚ) ^ e'), ← mul_assoc] at hvalue
      have hcancel := mul_right_cancel₀ (ten_zpow_pos e').ne' hvalue
      have hint : (c : ℤ) * 10 ^ j = m := by exact_mod_cast hcancel
      have hone : (1 : ℤ) ≤ 10 ^ j := one_le_pow₀ (by norm_num)
      have hc : (10 : ℤ) ^ ctx.prec ≤ c := by
        have hpow : 10 ^ ctx.prec ≤ 10 ^ (k + ctx.prec - 1) :=
          Nat.pow_le_pow_right (by norm_num) (by omega)
        exact_mod_cast hpow.trans hlarge
      have habs := le_abs_self m
      nlinarith
    · obtain ⟨j, hj⟩ : ∃ j : ℕ, e' = e + j := ⟨(e' - e).toNat, by omega⟩
      rw [ten_zpow_mul_pow hj, ← mul_assoc, mul_right_comm] at hvalue
      have hcancel := mul_right_cancel₀ (ten_zpow_pos e).ne' hvalue
      have hint : (c : ℤ) = m * 10 ^ j := by exact_mod_cast hcancel
      have hpow : (10 : ℤ) ^ (k + ctx.prec - 1) ≤ c := by exact_mod_cast hlarge
      have hexp : (10 : ℤ) ^ (ctx.prec + j) ≤ 10 ^ (k + ctx.prec - 1) :=
        pow_le_pow_right₀ (by norm_num) (by omega)
      have hjpos : (0 : ℤ) < 10 ^ j := by positivity
      have hmul : (10 : ℤ) ^ ctx.prec * 10 ^ j ≤ m * 10 ^ j := by
        rw [← pow_add, ← hint]
        exact hexp.trans hpow
      have habs := le_abs_self m
      have hle' := le_of_mul_le_mul_right hmul hjpos
      omega

theorem value_of_coefficient_eq_zero (h : d.coefficient = 0) : d.value = 0 := by
  unfold value
  rw [h]
  simp

theorem value_eq_zero_of_round (h : round ctx d = some d') (hzero : d.coefficient = 0) :
    d'.value = 0 := by
  unfold round at h
  rw [if_pos hzero] at h
  obtain rfl := Option.some.inj h
  exact value_of_coefficient_eq_zero hzero

/-- What rounding makes of a decimal that is not zero: nothing, or its coefficient in a larger
unit. -/
theorem round_cases (h : round ctx d = some d') (hpos : d.coefficient ≠ 0) :
    (d' = d ∧ ctx.Fits (d.coefficient * 10 ^ d.exponent)) ∨
      ∃ k : ℕ, (10 ^ (k + ctx.prec - 1) ≤ d.coefficient ∨ d.exponent + k ≤ ctx.etiny) ∧
        d.coefficient < 10 ^ (k + ctx.prec) ∧ ctx.etiny ≤ d.exponent + k ∧
        d.exponent + k ≤ ctx.etop ∧ d'.value = (if d.negative then -1 else 1) *
          roundHalfEven d.coefficient k * 10 ^ (d.exponent + k) := by
  have hlog := Nat.lt_pow_succ_log_self (b := 10) (by norm_num) d.coefficient
  have hlow := Nat.pow_log_le_self 10 hpos
  have hrange := ctx.etiny_le_etop
  have hprec := ctx.prec_pos
  unfold round at h
  rw [if_neg hpos] at h
  set adjusted := (Nat.log 10 d.coefficient : ℤ) + 1 + d.exponent - ctx.prec with hadjusted
  dsimp only at h
  by_cases hoverflow : ctx.etop < adjusted
  · rw [if_pos hoverflow] at h
    cases h
  rw [if_neg hoverflow] at h
  by_cases hsmall : d.exponent < max adjusted ctx.etiny
  · right
    rw [if_pos hsmall] at h
    obtain ⟨k, hk⟩ : ∃ k : ℕ, max adjusted ctx.etiny = d.exponent + k :=
      ⟨(max adjusted ctx.etiny - d.exponent).toNat, by omega⟩
    have hcoefficient : d.coefficient < 10 ^ (k + ctx.prec) :=
      hlog.trans_le (Nat.pow_le_pow_right (by norm_num) (by omega))
    refine ⟨k, ?_, hcoefficient, by omega, by omega, ?_⟩
    · by_cases hsubnormal : adjusted ≤ ctx.etiny
      · exact .inr (by omega)
      · refine .inl (le_trans (Nat.pow_le_pow_right (by norm_num) ?_) hlow)
        omega
    · have htoNat : (max adjusted ctx.etiny - d.exponent).toNat = k := by omega
      rw [htoNat, hk] at h
      have hq := roundHalfEven_le hcoefficient
      by_cases hcarry : 10 ^ ctx.prec ≤ roundHalfEven d.coefficient k
      · rw [if_pos hcarry] at h
        by_cases hover : ctx.etop < d.exponent + k + 1
        · rw [if_pos hover] at h
          cases h
        · rw [if_neg hover] at h
          obtain rfl := Option.some.inj h
          obtain ⟨p, hp⟩ : ∃ p, ctx.prec = p + 1 := ⟨ctx.prec - 1, by omega⟩
          have heq : roundHalfEven d.coefficient k = 10 ^ p * 10 := by
            rw [← pow_succ, ← hp]
            exact le_antisymm hq hcarry
          unfold value
          dsimp only
          rw [heq, Nat.mul_div_cancel _ (by norm_num), zpow_add_one₀ (by norm_num)]
          push_cast
          ring
      · rw [if_neg hcarry] at h
        obtain rfl := Option.some.inj h
        rfl
  · left
    rw [if_neg hsmall] at h
    refine ⟨(Option.some.inj h).symm, ?_⟩
    obtain ⟨k, hk⟩ : ∃ k : ℕ, d.exponent = max adjusted ctx.etiny + k :=
      ⟨(d.exponent - max adjusted ctx.etiny).toNat, by omega⟩
    have hlt : d.coefficient * 10 ^ k < 10 ^ ctx.prec := by
      have hexp : Nat.log 10 d.coefficient + 1 + k ≤ ctx.prec := by omega
      calc d.coefficient * 10 ^ k < 10 ^ (Nat.log 10 d.coefficient + 1) * 10 ^ k :=
            Nat.mul_lt_mul_of_pos_right hlog (by positivity)
        _ = 10 ^ (Nat.log 10 d.coefficient + 1 + k) := (pow_add ..).symm
        _ ≤ 10 ^ ctx.prec := Nat.pow_le_pow_right (by norm_num) hexp
    have hfits := fits_of_lt hlt (e := max adjusted ctx.etiny) (by omega) (by omega)
    rw [ten_zpow_mul_pow hk]
    push_cast at hfits
    rwa [mul_comm ((10 : ℚ) ^ max adjusted ctx.etiny), ← mul_assoc]

/-- Rounding keeps exactly the numbers that fit the context. -/
theorem round_value_iff (h : round ctx d = some d') :
    d'.value = d.value ↔ ctx.Fits d.value := by
  by_cases hzero : d.coefficient = 0
  · rw [value_eq_zero_of_round h hzero, value_of_coefficient_eq_zero hzero]
    exact ⟨fun _ => ctx.fits_zero, fun _ => rfl⟩
  have hvalue : d.value =
      (if d.negative then -1 else 1) * ((d.coefficient : ℚ) * 10 ^ d.exponent) := by
    unfold value
    ring
  rw [hvalue, fits_sign_mul]
  rcases round_cases h hzero with ⟨rfl, hfits⟩ | ⟨k, hsize, hlt, hlow, hhigh, hrounded⟩
  · exact ⟨fun _ => hfits, fun _ => hvalue⟩
  have hsign : (if d.negative then (-1 : ℚ) else 1) ≠ 0 := by
    split
    · norm_num
    · norm_num
  have hiff : d'.value = (if d.negative then -1 else 1) * ((d.coefficient : ℚ) * 10 ^ d.exponent) ↔
      roundHalfEven d.coefficient k * 10 ^ k = d.coefficient := by
    rw [hrounded, mul_assoc, mul_right_inj' hsign, ten_zpow_mul_pow rfl,
      mul_comm ((10 : ℚ) ^ d.exponent), ← mul_assoc, mul_left_inj' (ten_zpow_pos _).ne']
    exact_mod_cast Iff.rfl
  rw [hiff, roundHalfEven_mul_eq_iff]
  constructor
  · rintro ⟨q, hq⟩
    have hqlt : q < 10 ^ ctx.prec := by
      rw [hq, pow_add] at hlt
      exact lt_of_mul_lt_mul_left hlt (by positivity)
    have hfits := fits_of_lt hqlt hlow hhigh
    rw [hq]
    push_cast
    rw [ten_zpow_mul_pow rfl] at hfits
    rwa [mul_comm ((10 : ℚ) ^ k), mul_assoc, mul_comm ((10 : ℚ) ^ k)]
  · intro hfits
    exact dvd_of_fits hfits hsize

/-- Rounding keeps the sign. -/
theorem round_nonneg (h : round ctx d = some d') (hd : d.negative = false ∨ d.coefficient = 0) :
    d'.negative = false ∨ d'.coefficient = 0 := by
  unfold round at h
  by_cases hzero : d.coefficient = 0
  · rw [if_pos hzero] at h
    obtain rfl := Option.some.inj h
    exact .inr hzero
  have hsign := hd.resolve_right hzero
  rw [if_neg hzero] at h
  dsimp only at h
  left
  split at h
  · cases h
  split at h
  · split at h
    · split at h
      · cases h
      · obtain rfl := Option.some.inj h
        exact hsign
    · obtain rfl := Option.some.inj h
      exact hsign
  · obtain rfl := Option.some.inj h
    exact hsign

/-! ## Sums -/

theorem scaled_nonneg {e : ℤ} (h : d.negative = false ∨ d.coefficient = 0) : 0 ≤ d.scaled e := by
  unfold scaled
  rcases h with hsign | hzero
  · rw [hsign, if_neg Bool.false_ne_true]
    positivity
  · rw [hzero]
    simp

theorem scaled_value {e : ℤ} (h : e ≤ d.exponent) : (d.scaled e : ℚ) * 10 ^ e = d.value := by
  obtain ⟨k, hk⟩ : ∃ k : ℕ, d.exponent = e + k := ⟨(d.exponent - e).toNat, by omega⟩
  have htoNat : (d.exponent - e).toNat = k := by omega
  unfold scaled value
  rw [htoNat, ten_zpow_mul_pow hk]
  push_cast
  ring

/-- Decimals are equal if they stand for the same number. -/
theorem eq_iff_value {a b : Decimal} : a.eq b = true ↔ a.value = b.value := by
  rw [eq, decide_eq_true_eq, ← scaled_value (min_le_left a.exponent b.exponent),
    ← scaled_value (min_le_right a.exponent b.exponent),
    mul_left_inj' (ten_zpow_pos _).ne', Int.cast_inj]

/-- Before it is rounded, a sum is exact. -/
theorem add_value_iff (h : add ctx a b = some d) :
    d.value = a.value + b.value ↔ ctx.Fits (a.value + b.value) := by
  unfold add at h
  have hvalue := round_value_iff h
  set e := min a.exponent b.exponent with he
  set n := a.scaled e + b.scaled e with hn
  have hsum : (Decimal.value ⟨n < 0 ∨ n = 0 ∧ a.negative ∧ b.negative, n.natAbs, e⟩) =
      a.value + b.value := by
    rw [← scaled_value (show e ≤ a.exponent from min_le_left _ _),
      ← scaled_value (show e ≤ b.exponent from min_le_right _ _), ← add_mul]
    have hcast : (a.scaled e : ℚ) + b.scaled e = (n : ℚ) := by push_cast [hn]; rfl
    rw [hcast]
    unfold value
    dsimp only
    congr 1
    rcases lt_trichotomy n 0 with hneg | hzero | hpos
    · rw [decide_eq_true (.inl hneg), if_pos rfl, neg_one_mul, Nat.cast_natAbs, abs_of_neg hneg]
      push_cast
      ring
    · rw [hzero]
      simp
    · have hfalse : ¬ (n < 0 ∨ n = 0 ∧ a.negative ∧ b.negative) := by omega
      rw [decide_eq_false hfalse, if_neg Bool.false_ne_true, one_mul, Nat.cast_natAbs,
        abs_of_pos hpos]
  rwa [hsum] at hvalue

/-- A sum of numbers that are not negative is not negative. -/
theorem add_nonneg (h : add ctx a b = some d) (ha : a.negative = false ∨ a.coefficient = 0)
    (hb : b.negative = false ∨ b.coefficient = 0) : d.negative = false ∨ d.coefficient = 0 := by
  unfold add at h
  refine round_nonneg h ?_
  have hsum := Int.add_nonneg (scaled_nonneg (e := min a.exponent b.exponent) ha)
    (scaled_nonneg (e := min a.exponent b.exponent) hb)
  by_cases hzero : a.scaled (min a.exponent b.exponent) + b.scaled (min a.exponent b.exponent) = 0
  · right
    rw [hzero]
    rfl
  · left
    exact decide_eq_false (by omega)

/-- `sum(xs, start=start)`. -/
def sum (ctx : DecimalContext) (start : Decimal) (xs : List Decimal) : Option Decimal :=
  xs.foldlM (add ctx) start

/-- A running sum is exact after every term exactly if every exact partial sum fits. -/
theorem sum_exact_iff {start total : Decimal} {xs : List Decimal}
    (h : sum ctx start xs = some total) :
    (∀ ys, ys <+: xs → ∀ t, sum ctx start ys = some t →
        t.value = start.value + (ys.map value).sum) ↔
      ∀ ys, ys <+: xs → ys ≠ [] → ctx.Fits (start.value + (ys.map value).sum) := by
  induction xs generalizing start with
  | nil =>
      constructor
      · intro _ ys hys hne
        exact absurd (List.prefix_nil.mp hys) hne
      · intro _ ys hys t ht
        obtain rfl := List.prefix_nil.mp hys
        obtain rfl := Option.some.inj ht
        simp
  | cons x xs ih =>
      obtain ⟨next, hnext, hrest⟩ := Option.bind_eq_some_iff.mp h
      have hadd := add_value_iff hnext
      have hone : sum ctx start [x] = some next := by
        rw [sum, List.foldlM_cons, hnext]
        rfl
      constructor
      · intro hexact ys hys hne
        have hfirst := hexact [x] ⟨xs, rfl⟩ next hone
        rw [List.map_singleton, List.sum_singleton] at hfirst
        cases ys with
        | nil => exact absurd rfl hne
        | cons y ys =>
            obtain ⟨rfl, hprefix⟩ := List.cons_prefix_cons.mp hys
            rw [List.map_cons, List.sum_cons, ← add_assoc, ← hfirst]
            by_cases hempty : ys = []
            · subst hempty
              rw [List.map_nil, List.sum_nil, add_zero, hfirst]
              exact hadd.mp hfirst
            · refine (ih hrest).mp ?_ ys hprefix hempty
              intro zs hzs t ht
              have htotal := hexact (y :: zs) (List.cons_prefix_cons.mpr ⟨rfl, hzs⟩) t
                (Option.bind_eq_some_iff.mpr ⟨next, hnext, ht⟩)
              rw [htotal, List.map_cons, List.sum_cons, ← add_assoc, hfirst]
      · intro hfits ys hys t ht
        have hfirst : next.value = start.value + x.value := by
          refine hadd.mpr ?_
          have hone := hfits [x] ⟨xs, rfl⟩ (List.cons_ne_nil _ _)
          rwa [List.map_singleton, List.sum_singleton] at hone
        cases ys with
        | nil =>
            obtain rfl := Option.some.inj ht
            simp
        | cons y ys =>
            obtain ⟨rfl, hprefix⟩ := List.cons_prefix_cons.mp hys
            obtain ⟨next', hnext', ht⟩ := Option.bind_eq_some_iff.mp ht
            obtain rfl := Option.some.inj (hnext.symm.trans hnext')
            rw [List.map_cons, List.sum_cons, ← add_assoc, ← hfirst]
            refine (ih hrest).mpr ?_ ys hprefix t ht
            intro zs hzs hne
            have htotal := hfits (y :: zs) (List.cons_prefix_cons.mpr ⟨rfl, hzs⟩)
              (List.cons_ne_nil _ _)
            rwa [List.map_cons, List.sum_cons, ← add_assoc, ← hfirst] at htotal

/-- The same for the decimals of other things. -/
theorem sum_map_exact_iff {α : Type*} {f : α → Decimal} {start total : Decimal} {xs : List α}
    (h : sum ctx start (xs.map f) = some total) :
    (∀ ys, ys <+: xs → ∀ t, sum ctx start (ys.map f) = some t →
        t.value = start.value + (ys.map fun y => (f y).value).sum) ↔
      ∀ ys, ys <+: xs → ys ≠ [] → ctx.Fits (start.value + (ys.map fun y => (f y).value).sum) := by
  have hmap : ∀ ys : List α, (ys.map f).map value = ys.map fun y => (f y).value :=
    fun ys => List.map_map
  have hiff := sum_exact_iff h
  constructor
  · intro hexact ys hys hne
    have hfits := hiff.mp ?_ (ys.map f) (hys.map f) (fun hnil => hne (List.map_eq_nil_iff.mp hnil))
    · rwa [hmap] at hfits
    · intro zs hzs t ht
      obtain ⟨ys, hys, rfl⟩ := List.prefix_map_iff.mp hzs
      rw [hmap]
      exact hexact ys hys t ht
  · intro hfits ys hys t ht
    have hexact := hiff.mpr ?_ (ys.map f) (hys.map f) t ht
    · rwa [hmap] at hexact
    · intro zs hzs hne
      obtain ⟨ys, hys, rfl⟩ := List.prefix_map_iff.mp hzs
      rw [hmap]
      exact hfits ys hys (fun hnil => hne (congrArg _ hnil))

end Decimal
end Lib
