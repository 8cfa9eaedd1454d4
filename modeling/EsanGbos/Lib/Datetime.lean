import Mathlib.Data.List.Basic
import Mathlib.Data.Int.Order.Basic
import Mathlib.Logic.Basic
import Mathlib.Tactic.IntervalCases

/-!
# Dates and times

An aware datetime is an instant and the offset its zone gives there; instants and
time spans are whole microseconds, counted from midnight of the first day of year 1
in UTC. The wall time has to fall in the years 1 to 9999, which is a field.

## Main definitions

* `ord2ymd`, `ymd2ord` — the calendar date of a day and its inverse.
* `Datetime.add` — addition of a time span, under a fixed offset.
* `Datetime.isoformat` — the ISO 8601 text; `Datetime.isoformat_injective` says that it
  determines the datetime.
-/
namespace Lib

/-! ## The calendar -/

def isLeap (y : ℕ) : Bool := y % 4 = 0 && (y % 100 ≠ 0 || y % 400 = 0)

/-- Days before the month, in a leap year or in a common one. -/
def daysBeforeMonth (leap : Bool) : ℕ → ℕ
  | 2 => 31
  | 3 => 59 + leap.toNat
  | 4 => 90 + leap.toNat
  | 5 => 120 + leap.toNat
  | 6 => 151 + leap.toNat
  | 7 => 181 + leap.toNat
  | 8 => 212 + leap.toNat
  | 9 => 243 + leap.toNat
  | 10 => 273 + leap.toNat
  | 11 => 304 + leap.toNat
  | 12 => 334 + leap.toNat
  | _ => 0

/-- The day's number, the first day of year 1 being 1. -/
def ymd2ord (y m d : ℕ) : ℕ :=
  (y - 1) * 365 + (y - 1) / 4 - (y - 1) / 100 + (y - 1) / 400 + daysBeforeMonth (isLeap y) m + d

/-- The month and day of the `r + 1`-st day of a year: guess the month and correct
the guess. -/
def monthDay (leap : Bool) (r : ℕ) : ℕ × ℕ :=
  let m := (r + 50) / 32
  if r < daysBeforeMonth leap m then (m - 1, r - daysBeforeMonth leap (m - 1) + 1)
  else (m, r - daysBeforeMonth leap m + 1)

/-- The date of the day with number `n + 1`: cut into cycles of 400, 100, 4 and 1 years. -/
def ord2ymd (n : ℕ) : ℕ × ℕ × ℕ :=
  let n400 := n / 146097
  let n100 := n % 146097 / 36524
  let n4 := n % 146097 % 36524 / 1461
  let n1 := n % 146097 % 36524 % 1461 / 365
  let r := n % 146097 % 36524 % 1461 % 365
  let y := n400 * 400 + n100 * 100 + n4 * 4 + n1
  if n1 = 4 ∨ n100 = 4 then (y, 12, 31)
  else (y + 1, monthDay (n1 = 3 ∧ (n4 ≠ 24 ∨ n100 = 3)) r)

/-- The month before the guessed one has begun. -/
theorem daysBeforeMonth_guess_le (leap : Bool) {r : ℕ} (hr : r < 365) :
    daysBeforeMonth leap ((r + 50) / 32 - 1) ≤ r := by
  obtain ⟨m, hm⟩ : ∃ m, m = (r + 50) / 32 := ⟨_, rfl⟩
  have hm12 : m ≤ 12 := by omega
  have hm1 : 1 ≤ m := by omega
  rw [← hm]
  have hleap : leap.toNat ≤ 1 := Bool.toNat_le leap
  interval_cases m <;> simp only [daysBeforeMonth, Nat.reduceSub] <;> omega

theorem monthDay_spec (leap : Bool) {r : ℕ} (hr : r < 365) :
    daysBeforeMonth leap (monthDay leap r).1 + (monthDay leap r).2 = r + 1 := by
  have hguess := daysBeforeMonth_guess_le leap hr
  unfold monthDay
  dsimp only
  split <;> dsimp only <;> omega

/-- Days before a year, by the cycles its number is cut into. -/
theorem ymd2ord_of_cycles {a b c d : ℕ} (hb : b ≤ 3) (hc : c ≤ 24) (hd : d ≤ 3) (m r : ℕ) :
    ymd2ord (a * 400 + b * 100 + c * 4 + d + 1) m r
      = 146097 * a + 36524 * b + 1461 * c + 365 * d
        + daysBeforeMonth (d = 3 ∧ (c ≠ 24 ∨ b = 3)) m + r := by
  have hleap : isLeap (a * 400 + b * 100 + c * 4 + d + 1)
      = decide (d = 3 ∧ (c ≠ 24 ∨ b = 3)) := by
    simp only [isLeap, ← Bool.decide_or, ← Bool.decide_and, decide_eq_decide]
    omega
  have h4 : (a * 400 + b * 100 + c * 4 + d) / 4 = 100 * a + 25 * b + c := by omega
  have h100 : (a * 400 + b * 100 + c * 4 + d) / 100 = 4 * a + b := by omega
  have h400 : (a * 400 + b * 100 + c * 4 + d) / 400 = a := by omega
  simp only [ymd2ord, hleap, Nat.add_sub_cancel, h4, h100, h400]
  omega

theorem ymd2ord_ord2ymd (n : ℕ) :
    ymd2ord (ord2ymd n).1 (ord2ymd n).2.1 (ord2ymd n).2.2 = n + 1 := by
  obtain ⟨a, ha⟩ : ∃ a, a = n / 146097 := ⟨_, rfl⟩
  obtain ⟨b, hb⟩ : ∃ b, b = n % 146097 / 36524 := ⟨_, rfl⟩
  obtain ⟨c, hc⟩ : ∃ c, c = n % 146097 % 36524 / 1461 := ⟨_, rfl⟩
  obtain ⟨d, hd⟩ : ∃ d, d = n % 146097 % 36524 % 1461 / 365 := ⟨_, rfl⟩
  obtain ⟨r, hr⟩ : ∃ r, r = n % 146097 % 36524 % 1461 % 365 := ⟨_, rfl⟩
  have hn : n = 146097 * a + 36524 * b + 1461 * c + 365 * d + r := by omega
  have hc24 : c ≤ 24 := by omega
  unfold ord2ymd
  simp only [← ha, ← hb, ← hc, ← hd, ← hr]
  split
  next hlast =>
    -- the last day of a leap year; that year may also close a cycle of 400 years
    by_cases hb4 : b = 4
    · obtain ⟨hc0, hd0, hr0⟩ : c = 0 ∧ d = 0 ∧ r = 0 := by omega
      have hord := ymd2ord_of_cycles (a := a) (b := 3) (c := 24) (d := 3) le_rfl le_rfl le_rfl 12 31
      have hmonth : daysBeforeMonth (decide (3 = 3 ∧ (24 ≠ 24 ∨ 3 = 3))) 12 = 335 := rfl
      rw [hmonth] at hord
      have hy : a * 400 + b * 100 + c * 4 + d = a * 400 + 3 * 100 + 24 * 4 + 3 + 1 := by omega
      dsimp only
      rw [hy, hord]
      omega
    · have hleap : (3 = 3 ∧ (c ≠ 24 ∨ b = 3)) := by omega
      have hord := ymd2ord_of_cycles (a := a) (b := b) (d := 3) (by omega) hc24 le_rfl 12 31
      rw [decide_eq_true hleap] at hord
      have hy : a * 400 + b * 100 + c * 4 + d = a * 400 + b * 100 + c * 4 + 3 + 1 := by omega
      dsimp only
      rw [hy, hord]
      simp only [daysBeforeMonth, Bool.toNat_true]
      omega
  next hlast =>
    have hmd := monthDay_spec (decide (d = 3 ∧ (c ≠ 24 ∨ b = 3))) (r := r) (by omega)
    dsimp only
    rw [ymd2ord_of_cycles (by omega) hc24 (by omega)]
    omega

theorem month_day_le (leap : Bool) {r : ℕ} (hr : r < 365) :
    (monthDay leap r).1 ≤ 12 ∧ (monthDay leap r).2 ≤ 31 := by
  obtain ⟨m, hm⟩ : ∃ m, m = (r + 50) / 32 := ⟨_, rfl⟩
  have hm12 : m ≤ 12 := by omega
  have hm1 : 1 ≤ m := by omega
  have hleap : leap.toNat ≤ 1 := Bool.toNat_le leap
  unfold monthDay
  simp only [← hm]
  interval_cases m <;> simp only [daysBeforeMonth, Nat.reduceSub] <;> split <;> dsimp only <;>
    omega

/-- Up to the last day of the year 9999 the date fits its four, two and two digits. -/
theorem ord2ymd_lt {n : ℕ} (hn : n < 3652059) :
    (ord2ymd n).1 < 10000 ∧ (ord2ymd n).2.1 < 100 ∧ (ord2ymd n).2.2 < 100 := by
  unfold ord2ymd
  dsimp only
  split
  next => dsimp only; omega
  next =>
    have h := month_day_le (decide (n % 146097 % 36524 % 1461 / 365 = 3 ∧
      (n % 146097 % 36524 / 1461 ≠ 24 ∨ n % 146097 / 36524 = 3)))
      (r := n % 146097 % 36524 % 1461 % 365) (by omega)
    dsimp only
    omega

/-! ## Numerals of fixed width -/

/-- The last `w` digits. -/
def pad : ℕ → ℕ → List Char
  | 0, _ => []
  | w + 1, n => pad w (n / 10) ++ [Nat.digitChar (n % 10)]

@[simp] theorem length_pad (w n : ℕ) : (pad w n).length = w := by
  induction w generalizing n with
  | zero => rfl
  | succ w ih => simp [pad, ih]

theorem digitChar_inj {a b : ℕ} (ha : a < 10) (hb : b < 10)
    (h : Nat.digitChar a = Nat.digitChar b) : a = b := by
  interval_cases a <;> interval_cases b <;> first | rfl | exact absurd h (by decide)

theorem pad_inj {w a b : ℕ} (ha : a < 10 ^ w) (hb : b < 10 ^ w) (h : pad w a = pad w b) :
    a = b := by
  induction w generalizing a b with
  | zero => omega
  | succ w ih =>
      obtain ⟨hinit, hlast⟩ := List.append_inj' h rfl
      have hlast' := digitChar_inj (by omega) (by omega) (List.cons.inj hlast).1
      have hinit' := ih (a := a / 10) (b := b / 10) (by omega) (by omega) hinit
      omega

/-- A numeral of fixed width is split off a text in one way. -/
theorem pad_append_inj {w a b : ℕ} {r r' : List Char} (ha : a < 10 ^ w) (hb : b < 10 ^ w)
    (h : pad w a ++ r = pad w b ++ r') : a = b ∧ r = r' := by
  obtain ⟨hpad, hr⟩ := List.append_inj h (by simp)
  exact ⟨pad_inj ha hb hpad, hr⟩

/-! ## Datetimes -/

/-- A time span in microseconds. -/
abbrev Timedelta := ℤ

def microsPerDay : ℤ := 86400000000

/-- The end of 31 December 9999, in microseconds. -/
def maxWall : ℤ := 3652059 * microsPerDay

/-- An aware datetime: its instant and the offset of its zone there. -/
structure Datetime where
  instant : ℤ
  utcoffset : ℤ
  offset_lt : -microsPerDay < utcoffset ∧ utcoffset < microsPerDay
  wall_mem : 0 ≤ instant + utcoffset ∧ instant + utcoffset < maxWall
deriving DecidableEq

namespace Datetime

/-- The datetime at an instant under an offset, if its wall time can be represented. -/
def of? (instant utcoffset : ℤ) : Option Datetime :=
  if h : (-microsPerDay < utcoffset ∧ utcoffset < microsPerDay) ∧
      (0 ≤ instant + utcoffset ∧ instant + utcoffset < maxWall) then
    some ⟨instant, utcoffset, h.1, h.2⟩
  else none

theorem of?_self (d : Datetime) : of? d.instant d.utcoffset = some d := by
  rw [of?, dif_pos ⟨d.offset_lt, d.wall_mem⟩]

theorem of?_eq_some {instant utcoffset : ℤ} {d : Datetime} (h : of? instant utcoffset = some d) :
    d.instant = instant ∧ d.utcoffset = utcoffset := by
  unfold of? at h
  split at h
  next => exact Option.some.inj h ▸ ⟨rfl, rfl⟩
  next => cases h

/-- Addition under a fixed offset; `none` when the sum cannot be represented. -/
def add (d : Datetime) (δ : Timedelta) : Option Datetime := of? (d.instant + δ) d.utcoffset

/-- Microseconds on the wall clock. -/
def wall (d : Datetime) : ℕ := (d.instant + d.utcoffset).toNat

/-! ## The ISO 8601 text -/

/-- A fraction of a second is written only when there is one. -/
def fraction (us : ℕ) : List Char := if us = 0 then [] else '.' :: pad 6 us

def dateText (n : ℕ) : List Char :=
  pad 4 (ord2ymd n).1 ++ '-' :: (pad 2 (ord2ymd n).2.1 ++ '-' :: pad 2 (ord2ymd n).2.2)

/-- Hours, minutes and seconds of a time in seconds. -/
def clockText (t : ℕ) : List Char :=
  pad 2 (t / 3600) ++ ':' :: (pad 2 (t / 60 % 60) ++ ':' :: pad 2 (t % 60))

/-- An offset shows its seconds only when they are not zero. -/
def offsetText (o : ℤ) : List Char :=
  let us := o.natAbs
  let seconds := us % 60000000
  (if o < 0 then '-' else '+') :: (pad 2 (us / 3600000000) ++ ':' :: (pad 2 (us / 60000000 % 60) ++
    if seconds = 0 then [] else ':' :: (pad 2 (seconds / 1000000) ++ fraction (seconds % 1000000))))

/-- `datetime.isoformat()`. -/
def isoformat (d : Datetime) : List Char :=
  dateText (d.wall / 86400000000) ++ 'T' :: (clockText (d.wall % 86400000000 / 1000000) ++
    (fraction (d.wall % 1000000) ++ offsetText d.utcoffset))

theorem dateText_append_inj {n n' : ℕ} {r r' : List Char} (hn : n < 3652059) (hn' : n' < 3652059)
    (h : dateText n ++ r = dateText n' ++ r') : n = n' ∧ r = r' := by
  obtain ⟨hy, hm, hd⟩ := ord2ymd_lt hn
  obtain ⟨hy', hm', hd'⟩ := ord2ymd_lt hn'
  simp only [dateText, List.append_assoc, List.cons_append] at h
  obtain ⟨hyear, h⟩ := pad_append_inj hy hy' h
  obtain ⟨hmonth, h⟩ := pad_append_inj hm hm' (List.cons.inj h).2
  obtain ⟨hday, h⟩ := pad_append_inj hd hd' (List.cons.inj h).2
  have hord := ymd2ord_ord2ymd n
  rw [hyear, hmonth, hday, ymd2ord_ord2ymd n'] at hord
  exact ⟨by omega, h⟩

theorem clockText_append_inj {t t' : ℕ} {r r' : List Char} (ht : t < 86400) (ht' : t' < 86400)
    (h : clockText t ++ r = clockText t' ++ r') : t = t' ∧ r = r' := by
  simp only [clockText, List.append_assoc, List.cons_append] at h
  obtain ⟨hh, h⟩ := pad_append_inj (by omega) (by omega) h
  obtain ⟨hm, h⟩ := pad_append_inj (by omega) (by omega) (List.cons.inj h).2
  obtain ⟨hs, h⟩ := pad_append_inj (by omega) (by omega) (List.cons.inj h).2
  exact ⟨by omega, h⟩

/-- A fraction can be split off before anything that does not start with a point. -/
theorem fraction_append_inj {us us' : ℕ} {r r' : List Char} (hus : us < 1000000)
    (hus' : us' < 1000000) (hr : r.head? ≠ some '.') (hr' : r'.head? ≠ some '.')
    (h : fraction us ++ r = fraction us' ++ r') : us = us' ∧ r = r' := by
  unfold fraction at h
  split at h <;> split at h
  next h0 h0' => exact ⟨h0.trans h0'.symm, by simpa using h⟩
  next => rw [List.nil_append] at h; simp [h] at hr
  next => rw [List.nil_append] at h; simp [← h] at hr'
  next => exact pad_append_inj hus hus' (List.cons.inj h).2

theorem fraction_inj {us us' : ℕ} (hus : us < 1000000) (hus' : us' < 1000000)
    (h : fraction us = fraction us') : us = us' := by
  have happend : fraction us ++ [] = fraction us' ++ [] := by rw [h]
  exact (fraction_append_inj hus hus' (by simp) (by simp) happend).1

theorem offsetText_head (o : ℤ) : (offsetText o).head? ≠ some '.' := by
  unfold offsetText
  split <;> simp

theorem offsetText_inj {o o' : ℤ} (ho : -microsPerDay < o ∧ o < microsPerDay)
    (ho' : -microsPerDay < o' ∧ o' < microsPerDay) (h : offsetText o = offsetText o') :
    o = o' := by
  unfold microsPerDay at ho ho'
  unfold offsetText at h
  obtain ⟨hsign, h⟩ := List.cons.inj h
  obtain ⟨hh, h⟩ := pad_append_inj (by omega) (by omega) h
  obtain ⟨hm, h⟩ := pad_append_inj (by omega) (by omega) (List.cons.inj h).2
  have hsec : o.natAbs % 60000000 = o'.natAbs % 60000000 := by
    split at h <;> split at h
    next h0 h0' => exact h0.trans h0'.symm
    next => simp at h
    next => simp at h
    next =>
      obtain ⟨hs, h⟩ := pad_append_inj (by omega) (by omega) (List.cons.inj h).2
      have hf := fraction_inj (by omega) (by omega) h
      omega
  have hneg : o < 0 ↔ o' < 0 := by
    split at hsign <;> split at hsign <;> first | omega | exact absurd hsign (by decide)
  omega

/-- The text of a datetime determines it. -/
theorem isoformat_injective : Function.Injective isoformat := by
  intro d d' h
  have hw : (d.wall : ℤ) = d.instant + d.utcoffset := Int.toNat_of_nonneg d.wall_mem.1
  have hw' : (d'.wall : ℤ) = d'.instant + d'.utcoffset := Int.toNat_of_nonneg d'.wall_mem.1
  have hlt := d.wall_mem.2
  have hlt' := d'.wall_mem.2
  unfold maxWall microsPerDay at hlt hlt'
  unfold isoformat at h
  obtain ⟨hdate, h⟩ := dateText_append_inj (by omega) (by omega) h
  obtain ⟨hclock, h⟩ := clockText_append_inj (by omega) (by omega) (List.cons.inj h).2
  obtain ⟨hus, h⟩ := fraction_append_inj (by omega) (by omega) (offsetText_head _)
    (offsetText_head _) h
  have hoff := offsetText_inj d.offset_lt d'.offset_lt h
  have hinst : d.instant = d'.instant := by omega
  cases d; cases d'
  simp only at hinst hoff
  subst hinst hoff
  rfl

/-- The characters of a UTC text before its offset. -/
def isClockChar (c : Char) : Bool := c.isDigit || c == '-' || c == ':' || c == 'T' || c == '.'

theorem isClockChar_of_mem_pad {c : Char} {w n : ℕ} (h : c ∈ pad w n) : isClockChar c = true := by
  induction w generalizing n with
  | zero => simp [pad] at h
  | succ w ih =>
      rw [pad, List.mem_append, List.mem_singleton] at h
      rcases h with h | rfl
      · exact ih h
      · have hall : ∀ k : Fin 10, isClockChar (Nat.digitChar k) = true := by decide
        exact hall ⟨n % 10, Nat.mod_lt _ (by decide)⟩

/-- In UTC the offset ends the text, after digits and separators. -/
theorem isoformat_utc {d : Datetime} (h : d.utcoffset = 0) :
    ∃ s, d.isoformat = s ++ ['+', '0', '0', ':', '0', '0'] ∧ ∀ c ∈ s, isClockChar c = true := by
  refine ⟨dateText (d.wall / 86400000000) ++ 'T' :: (clockText (d.wall % 86400000000 / 1000000) ++
    fraction (d.wall % 1000000)), ?_, fun c hc => ?_⟩
  · have hoffset : offsetText d.utcoffset = ['+', '0', '0', ':', '0', '0'] := by rw [h]; decide
    rw [isoformat, hoffset]
    simp only [List.append_assoc, List.cons_append]
  · have hpad : ∀ {w n}, c ∈ pad w n → isClockChar c = true := isClockChar_of_mem_pad
    have hsep : isClockChar '-' = true ∧ isClockChar ':' = true ∧ isClockChar 'T' = true ∧
        isClockChar '.' = true := by decide
    simp only [dateText, clockText, fraction, List.mem_append, List.mem_cons] at hc
    split at hc <;> grind

end Datetime
end Lib
