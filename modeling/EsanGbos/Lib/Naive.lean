import EsanGbos.Lib.Datetime
import Mathlib.Data.Bool.AllAny

/-!
# Naive datetimes

A naive datetime is a wall time without a zone. Its text has one width up to the seconds, and a
fraction only where there is one, so that the texts come in the order of the datetimes.

## Main definitions

* `Naive`, `Naive.text` — the datetime and `str` of it.

## Main results

* `valid_ord2ymd` — the date of a day is a date of the calendar.
* `Naive.text_lt_text_iff` — texts compare as their datetimes.
-/
namespace Lib

/-! ## The order of dates -/

/-- The days before year `k + 1`. -/
def daysBeforeYear (k : ℕ) : ℕ := k * 365 + k / 4 - k / 100 + k / 400

theorem daysBeforeYear_mono {a b : ℕ} (h : a ≤ b) : daysBeforeYear a ≤ daysBeforeYear b := by
  have h4 : a / 4 ≤ b / 4 := Nat.div_le_div_right h
  have h400 : a / 400 ≤ b / 400 := Nat.div_le_div_right h
  have h100 : b / 100 ≤ a / 100 + (b - a) := by omega
  unfold daysBeforeYear
  omega

theorem toNat_isLeap (y : ℕ) : (isLeap y).toNat =
    if 4 ∣ y then if 100 ∣ y then if 400 ∣ y then 1 else 0 else 1 else 0 := by
  simp only [isLeap, Nat.dvd_iff_mod_eq_zero]
  by_cases h4 : y % 4 = 0 <;> by_cases h100 : y % 100 = 0 <;> by_cases h400 : y % 400 = 0 <;>
    simp [h4, h100, h400]

theorem daysBeforeYear_succ (k : ℕ) :
    daysBeforeYear (k + 1) = daysBeforeYear k + 365 + (isLeap (k + 1)).toNat := by
  have h4 : (k + 1) / 4 = k / 4 + if 4 ∣ k + 1 then 1 else 0 := Nat.succ_div
  have h100 : (k + 1) / 100 = k / 100 + if 100 ∣ k + 1 then 1 else 0 := Nat.succ_div
  have h400 : (k + 1) / 400 = k / 400 + if 400 ∣ k + 1 then 1 else 0 := Nat.succ_div
  have hle : k / 100 ≤ k / 4 := Nat.div_le_div_left (by decide) (by decide)
  have hdvd : 100 ∣ k + 1 → 4 ∣ k + 1 := Nat.dvd_trans (by decide)
  have hdvd' : 400 ∣ k + 1 → 100 ∣ k + 1 := Nat.dvd_trans (by decide)
  rw [daysBeforeYear, daysBeforeYear, toNat_isLeap, h4, h100, h400]
  generalize k / 4 = a, k / 100 = b, k / 400 = c at hle
  by_cases hd4 : 4 ∣ k + 1
  · by_cases hd100 : 100 ∣ k + 1
    · by_cases hd400 : 400 ∣ k + 1
      · simp only [hd4, hd100, hd400, if_true]
        omega
      · simp only [hd4, hd100, hd400, if_true, if_false]
        omega
    · have hd400 : ¬ 400 ∣ k + 1 := mt hdvd' hd100
      simp only [hd4, hd100, hd400, if_true, if_false]
      omega
  · have hd100 : ¬ 100 ∣ k + 1 := mt hdvd hd4
    have hd400 : ¬ 400 ∣ k + 1 := mt hdvd' hd100
    simp only [hd4, hd100, hd400, if_false]
    omega

theorem ymd2ord_eq (y m d : ℕ) :
    ymd2ord y m d = daysBeforeYear (y - 1) + daysBeforeMonth (isLeap y) m + d := rfl

/-- The number of a date in its year. -/
def dayOfYear (date : ℕ × ℕ × ℕ) : ℕ := daysBeforeMonth (isLeap date.1) date.2.1 + date.2.2

/-- A date of the calendar. -/
structure Valid (date : ℕ × ℕ × ℕ) : Prop where
  year_pos : 1 ≤ date.1
  month_mem : 1 ≤ date.2.1 ∧ date.2.1 ≤ 12
  day_pos : 1 ≤ date.2.2
  day_le : dayOfYear date ≤ if date.2.1 = 12 then 365 + (isLeap date.1).toNat
    else daysBeforeMonth (isLeap date.1) (date.2.1 + 1)

theorem Valid.dayOfYear_le {date : ℕ × ℕ × ℕ} (h : Valid date) :
    dayOfYear date ≤ 365 + (isLeap date.1).toNat := by
  obtain ⟨y, m, d⟩ := date
  obtain ⟨-, ⟨hm1, hm12⟩, -, hle⟩ := h
  refine hle.trans ?_
  dsimp only at hm1 hm12 ⊢
  interval_cases m <;>
    (simp [daysBeforeMonth]; try omega)

theorem daysBeforeMonth_mono (leap : Bool) {m m' : ℕ} (hm : 1 ≤ m) (hm' : m' ≤ 12) (h : m ≤ m') :
    daysBeforeMonth leap m ≤ daysBeforeMonth leap m' := by
  have hall : ∀ leap : Bool, ∀ m' : Fin 13, ∀ m : Fin 13, 1 ≤ m.1 → m.1 ≤ m'.1 →
      daysBeforeMonth leap m ≤ daysBeforeMonth leap m' := by decide
  exact hall leap ⟨m', Nat.lt_succ_of_le hm'⟩ ⟨m, Nat.lt_succ_of_le (h.trans hm')⟩ hm h

theorem Valid.lt_of_month_lt {y m m' d d' : ℕ} (h : Valid (y, m, d)) (h' : Valid (y, m', d'))
    (hlt : m < m') : dayOfYear (y, m, d) < dayOfYear (y, m', d') := by
  have hle := h.day_le
  have hm' := h'.month_mem.2
  have hd' := h'.day_pos
  have hmono := daysBeforeMonth_mono (isLeap y) (Nat.succ_pos m) hm' hlt
  dsimp only [dayOfYear] at hle hd' hm' ⊢
  rw [if_neg (by omega)] at hle
  dsimp only [Nat.succ_eq_add_one] at hmono
  omega


theorem Valid.lt_of_year_lt {y y' m m' d d' : ℕ} (h : Valid (y, m, d)) (h' : Valid (y', m', d'))
    (hlt : y < y') : ymd2ord y m d < ymd2ord y' m' d' := by
  have hle := h.dayOfYear_le
  have hy := h.year_pos
  have hd' := h'.day_pos
  have hsucc := daysBeforeYear_succ (y - 1)
  have hmono : daysBeforeYear (y - 1 + 1) ≤ daysBeforeYear (y' - 1) :=
    daysBeforeYear_mono (by omega)
  dsimp only [dayOfYear] at hle hy hd'
  rw [Nat.sub_add_cancel hy] at hsucc hmono
  rw [ymd2ord_eq, ymd2ord_eq]
  omega

/-- Dates come in the order of their days. -/
theorem Valid.lt_or {p q : ℕ × ℕ × ℕ} (hp : Valid p) (hq : Valid q)
    (hlt : ymd2ord p.1 p.2.1 p.2.2 < ymd2ord q.1 q.2.1 q.2.2) :
    p.1 < q.1 ∨ p.1 = q.1 ∧ (p.2.1 < q.2.1 ∨ p.2.1 = q.2.1 ∧ p.2.2 < q.2.2) := by
  obtain ⟨y, m, d⟩ := p
  obtain ⟨y', m', d'⟩ := q
  rcases Nat.lt_trichotomy y y' with hy | rfl | hy
  · exact .inl hy
  · refine .inr ⟨rfl, ?_⟩
    rw [ymd2ord_eq, ymd2ord_eq] at hlt
    dsimp only at hlt ⊢
    rcases Nat.lt_trichotomy m m' with hm | rfl | hm
    · exact .inl hm
    · exact .inr ⟨rfl, by omega⟩
    · have hday := hq.lt_of_month_lt hp hm
      dsimp only [dayOfYear] at hday
      omega
  · exact absurd (hq.lt_of_year_lt hp hy) (Nat.lt_asymm hlt)

theorem valid_monthDay {y r : ℕ} (hy : 1 ≤ y) (hr : r < 365) :
    Valid (y, monthDay (isLeap y) r) := by
  have hspec := monthDay_spec (isLeap y) hr
  have hmonth : (1 ≤ (monthDay (isLeap y) r).1 ∧ (monthDay (isLeap y) r).1 ≤ 12) ∧
      1 ≤ (monthDay (isLeap y) r).2 ∧ (r < if (monthDay (isLeap y) r).1 = 12 then 365
        else daysBeforeMonth (isLeap y) ((monthDay (isLeap y) r).1 + 1)) := by
    obtain ⟨m, hm⟩ : ∃ m, m = (r + 50) / 32 := ⟨_, rfl⟩
    have hm12 : m ≤ 12 := by omega
    have hm1 : 1 ≤ m := by omega
    have hleap : (isLeap y).toNat ≤ 1 := Bool.toNat_le _
    unfold monthDay
    simp only [← hm]
    interval_cases m <;> simp only [daysBeforeMonth, Nat.reduceSub] <;> split <;> simp <;> omega
  refine ⟨hy, hmonth.1, hmonth.2.1, ?_⟩
  have hlt := hmonth.2.2
  rw [dayOfYear, hspec]
  dsimp only
  split at hlt
  next h => rw [if_pos h]; omega
  next h => rw [if_neg h]; omega

theorem isLeap_of_cycles {a b c d : ℕ} (hb : b ≤ 3) (hc : c ≤ 24) (hd : d ≤ 3) :
    isLeap (a * 400 + b * 100 + c * 4 + d + 1) = decide (d = 3 ∧ (c ≠ 24 ∨ b = 3)) := by
  simp only [isLeap, ← Bool.decide_or, ← Bool.decide_and, decide_eq_decide]
  omega

theorem valid_ord2ymd (n : ℕ) : Valid (ord2ymd n) := by
  have hc : n % 146097 % 36524 / 1461 ≤ 24 := by omega
  unfold ord2ymd
  dsimp only
  split
  next hlast =>
    refine ⟨by dsimp only; omega, ⟨Nat.succ_pos _, le_rfl⟩, Nat.succ_pos _, ?_⟩
    simp only [dayOfYear, daysBeforeMonth, if_true]
    omega
  next hlast =>
    rw [not_or] at hlast
    rw [← isLeap_of_cycles (by omega) hc (by omega)]
    exact valid_monthDay (Nat.succ_pos _) (Nat.mod_lt _ (by decide))

/-! ## The order of the texts -/

/-- The first difference of two texts decides, whatever follows. -/
theorem append_lt_of_lt {s t u v : List Char} (hlength : s.length = t.length) (h : s < t) :
    s ++ u < t ++ v := by
  induction s generalizing t with
  | nil =>
    cases t with
    | nil => exact absurd h (List.lt_irrefl _)
    | cons d t => cases hlength
  | cons c s ih =>
    cases t with
    | nil => cases hlength
    | cons d t =>
      rw [List.cons_lt_cons_iff] at h
      rw [List.cons_append, List.cons_append, List.cons_lt_cons_iff]
      exact h.imp_right fun ⟨hcd, hst⟩ => ⟨hcd, ih (Nat.succ.inj hlength) hst⟩

theorem append_lt_append_left (s : List Char) {u v : List Char} (h : u < v) : s ++ u < s ++ v := by
  induction s with
  | nil => exact h
  | cons c s ih =>
    rw [List.cons_append, List.cons_append, List.cons_lt_cons_iff]
    exact .inr ⟨rfl, ih⟩

theorem digitChar_lt {a b : ℕ} (hb : b < 10) (h : a < b) : Nat.digitChar a < Nat.digitChar b := by
  interval_cases b <;> interval_cases a <;> decide

/-- Numerals of one width come in the order of their numbers. -/
theorem pad_lt_pad {w a b : ℕ} (hb : b < 10 ^ w) (h : a < b) : pad w a < pad w b := by
  induction w generalizing a b with
  | zero => omega
  | succ w ih =>
    rw [pad, pad]
    by_cases hinit : a / 10 < b / 10
    · exact append_lt_of_lt (by simp) (ih (by omega) hinit)
    · have heq : a / 10 = b / 10 := by omega
      rw [heq]
      refine append_lt_append_left _ ?_
      rw [List.cons_lt_cons_iff]
      exact .inl (digitChar_lt (Nat.mod_lt _ (by decide)) (by omega))

open Datetime

theorem dateText_lt_dateText {n n' : ℕ} (hn' : n' < 3652059) (h : n < n') :
    dateText n < dateText n' := by
  have hlt : ymd2ord (ord2ymd n).1 (ord2ymd n).2.1 (ord2ymd n).2.2 <
      ymd2ord (ord2ymd n').1 (ord2ymd n').2.1 (ord2ymd n').2.2 := by
    rw [ymd2ord_ord2ymd, ymd2ord_ord2ymd]
    omega
  obtain ⟨hy', hm', hd'⟩ := ord2ymd_lt hn'
  unfold dateText
  rcases (valid_ord2ymd n).lt_or (valid_ord2ymd n') hlt with hy | ⟨hy, hm | ⟨hm, hd⟩⟩
  · exact append_lt_of_lt (by simp) (pad_lt_pad hy' hy)
  · rw [hy]
    refine append_lt_append_left _ (List.cons_lt_cons_iff.mpr (.inr ⟨rfl, ?_⟩))
    exact append_lt_of_lt (by simp) (pad_lt_pad hm' hm)
  · rw [hy, hm]
    refine append_lt_append_left _ (List.cons_lt_cons_iff.mpr (.inr ⟨rfl, ?_⟩))
    refine append_lt_append_left _ (List.cons_lt_cons_iff.mpr (.inr ⟨rfl, ?_⟩))
    exact pad_lt_pad hd' hd

theorem clockText_lt_clockText {t t' : ℕ} (ht' : t' < 86400) (h : t < t') :
    clockText t < clockText t' := by
  unfold clockText
  by_cases hhour : t / 3600 < t' / 3600
  · exact append_lt_of_lt (by simp) (pad_lt_pad (by omega) hhour)
  have hhour : t / 3600 = t' / 3600 := by omega
  rw [hhour]
  refine append_lt_append_left _ (List.cons_lt_cons_iff.mpr (.inr ⟨rfl, ?_⟩))
  by_cases hminute : t / 60 % 60 < t' / 60 % 60
  · exact append_lt_of_lt (by simp) (pad_lt_pad (by omega) hminute)
  have hminute : t / 60 % 60 = t' / 60 % 60 := by omega
  rw [hminute]
  refine append_lt_append_left _ (List.cons_lt_cons_iff.mpr (.inr ⟨rfl, ?_⟩))
  exact pad_lt_pad (by omega) (by omega)

theorem fraction_lt_fraction {us us' : ℕ} (hus' : us' < 1000000) (h : us < us') :
    fraction us < fraction us' := by
  have hne : us' ≠ 0 := Nat.ne_of_gt (Nat.zero_lt_of_lt h)
  rw [fraction, fraction, if_neg hne]
  split
  next => exact List.nil_lt_cons _ _
  next => exact List.cons_lt_cons_iff.mpr (.inr ⟨rfl, pad_lt_pad hus' h⟩)

/-! ## Naive datetimes -/

/-- A wall time in the years 1 to 9999, in microseconds. -/
structure Naive where
  wall : ℕ
  wall_lt : wall < 3652059 * 86400000000
deriving DecidableEq

namespace Naive

/-- `str(value)`. -/
def text (d : Naive) : List Char :=
  dateText (d.wall / 86400000000) ++ ' ' :: (clockText (d.wall % 86400000000 / 1000000) ++
    fraction (d.wall % 1000000))

theorem text_lt_text {d d' : Naive} (h : d.wall < d'.wall) : d.text < d'.text := by
  have hlt := d'.wall_lt
  unfold text
  by_cases hdate : d.wall / 86400000000 < d'.wall / 86400000000
  · exact append_lt_of_lt (by simp [dateText]) (dateText_lt_dateText (by omega) hdate)
  have hdate : d.wall / 86400000000 = d'.wall / 86400000000 := by omega
  rw [hdate]
  refine append_lt_append_left _ (List.cons_lt_cons_iff.mpr (.inr ⟨rfl, ?_⟩))
  by_cases hclock : d.wall % 86400000000 / 1000000 < d'.wall % 86400000000 / 1000000
  · exact append_lt_of_lt (by simp [clockText]) (clockText_lt_clockText (by omega) hclock)
  have hclock : d.wall % 86400000000 / 1000000 = d'.wall % 86400000000 / 1000000 := by omega
  rw [hclock]
  exact append_lt_append_left _ (fraction_lt_fraction (by omega) (by omega))

theorem text_lt_text_iff {d d' : Naive} : d.text < d'.text ↔ d.wall < d'.wall := by
  refine ⟨fun h => ?_, text_lt_text⟩
  rcases Nat.lt_trichotomy d.wall d'.wall with hlt | heq | hgt
  · exact hlt
  · have hself : d = d' := by
      cases d
      cases d'
      congr
    exact absurd (hself ▸ h) (List.lt_irrefl _)
  · exact absurd h (List.lt_asymm (text_lt_text hgt))

theorem text_injective : Function.Injective text := by
  intro d d' h
  rcases Nat.lt_trichotomy d.wall d'.wall with hlt | heq | hgt
  · exact absurd (h ▸ text_lt_text hlt) (List.lt_irrefl _)
  · cases d
    cases d'
    congr
  · exact absurd (h ▸ text_lt_text hgt) (List.lt_irrefl _)

theorem length_text_le (d : Naive) : d.text.length ≤ 26 := by
  have hfraction : (fraction (d.wall % 1000000)).length ≤ 7 := by
    unfold fraction
    split <;> simp
  simp only [text, dateText, clockText, List.length_append, List.length_cons, length_pad]
  omega

theorem text_ne_nil (d : Naive) : d.text ≠ [] := by
  simp [text]

/-- The text is ASCII. -/
theorem toNat_le_of_mem_text {d : Naive} {c : Char} (h : c ∈ d.text) : c.toNat ≤ 126 := by
  have hpad : ∀ {w n}, c ∈ pad w n → c.toNat ≤ 126 := by
    intro w n hc
    have hclock := isClockChar_of_mem_pad hc
    simp only [isClockChar, Bool.or_eq_true, beq_iff_eq] at hclock
    rcases hclock with (((hdigit | rfl) | rfl) | rfl) | rfl
    · have hnine : '9'.toNat = 57 := by decide
      have hle := (Char.isDigit_iff_toNat.mp hdigit).2
      omega
    all_goals decide
  have hseparator : ∀ s ∈ ['-', ' ', ':', '.'], s.toNat ≤ 126 :=
    List.all_iff_forall_prop.mp (by decide)
  simp only [text, dateText, clockText, fraction, List.mem_append, List.mem_cons] at h
  split at h <;> grind

end Naive
end Lib
