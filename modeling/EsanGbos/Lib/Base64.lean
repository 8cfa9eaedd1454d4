import Mathlib.Data.Fintype.Basic
import Mathlib.Data.List.DropRight
import Mathlib.Data.Nat.Notation

/-!
# Base64

Three bytes become four characters of a 64 letter alphabet; a last group of one or two
bytes is padded. Decoding is strict: nothing outside the alphabet, padding only at the
end of the last group. The unused low bits before a padding are not looked at.

## Main definitions

* `Base64.encode`, `Base64.decode` — the encoding and its strict reader.
* `Base64.decode_encode` — the round trip.
-/
namespace Lib.Base64

/-- The letter for six bits. -/
def letter (n : ℕ) : Char :=
  if n < 26 then Char.ofNat (65 + n)
  else if n < 52 then Char.ofNat (71 + n)
  else if n < 62 then Char.ofNat (n - 4)
  else if n = 62 then '+' else '/'

/-- The six bits of a letter. -/
def value? (c : Char) : Option ℕ :=
  let n := c.toNat
  if 65 ≤ n ∧ n < 91 then some (n - 65)
  else if 97 ≤ n ∧ n < 123 then some (n - 71)
  else if 48 ≤ n ∧ n < 58 then some (n + 4)
  else if c = '+' then some 62 else if c = '/' then some 63 else none

def encode : List UInt8 → List Char
  | [] => []
  | [a] => [letter (a.toNat / 4), letter (a.toNat % 4 * 16), '=', '=']
  | [a, b] => [letter (a.toNat / 4), letter (a.toNat % 4 * 16 + b.toNat / 16),
      letter (b.toNat % 16 * 4), '=']
  | a :: b :: c :: bs => letter (a.toNat / 4) :: letter (a.toNat % 4 * 16 + b.toNat / 16) ::
      letter (b.toNat % 16 * 4 + c.toNat / 64) :: letter (c.toNat % 64) :: encode bs

def decode : List Char → Option (List UInt8)
  | [] => some []
  | [p, q, '=', '='] => do
      let p ← value? p
      let q ← value? q
      return [UInt8.ofNat (p * 4 + q / 16)]
  | [p, q, r, '='] => do
      let p ← value? p
      let q ← value? q
      let r ← value? r
      return [UInt8.ofNat (p * 4 + q / 16), UInt8.ofNat (q % 16 * 16 + r / 4)]
  | p :: q :: r :: s :: cs => do
      let p ← value? p
      let q ← value? q
      let r ← value? r
      let s ← value? s
      return UInt8.ofNat (p * 4 + q / 16) :: UInt8.ofNat (q % 16 * 16 + r / 4) ::
        UInt8.ofNat (r % 4 * 64 + s) :: (← decode cs)
  | _ => none

theorem value?_letter {n : ℕ} (h : n < 64) : value? (letter n) = some n := by
  have hall : ∀ n : Fin 64, value? (letter n) = some n.1 := by decide
  exact hall ⟨n, h⟩

theorem letter_ne_pad {n : ℕ} (h : n < 64) : letter n ≠ '=' := by
  have hall : ∀ n : Fin 64, letter n ≠ '=' := by decide
  exact hall ⟨n, h⟩

theorem ofNat_eq {a : UInt8} {n : ℕ} (h : n = a.toNat) : UInt8.ofNat n = a := by
  rw [h, UInt8.ofNat_toNat]

/-- Decoding what was encoded gives the bytes back. -/
theorem decode_encode : ∀ bs : List UInt8, decode (encode bs) = some bs
  | [] => rfl
  | [a] => by
      have ha := a.toNat_lt
      simp only [encode, decode, value?_letter (n := a.toNat / 4) (by omega),
        value?_letter (n := a.toNat % 4 * 16) (by omega), bind, Option.bind, pure]
      rw [ofNat_eq (a := a) (by omega)]
  | [a, b] => by
      have ha := a.toNat_lt
      have hb := b.toNat_lt
      have hr : letter (b.toNat % 16 * 4) ≠ '=' := letter_ne_pad (by omega)
      rw [encode, decode]
      · simp only [value?_letter (n := a.toNat / 4) (by omega),
          value?_letter (n := a.toNat % 4 * 16 + b.toNat / 16) (by omega),
          value?_letter (n := b.toNat % 16 * 4) (by omega), bind, Option.bind, pure]
        rw [ofNat_eq (a := a) (by omega), ofNat_eq (a := b) (by omega)]
      · simpa using hr
  | a :: b :: c :: bs => by
      have ha := a.toNat_lt
      have hb := b.toNat_lt
      have hc := c.toNat_lt
      have hs : letter (c.toNat % 64) ≠ '=' := letter_ne_pad (by omega)
      rw [encode, decode]
      · simp only [value?_letter (n := a.toNat / 4) (by omega),
          value?_letter (n := a.toNat % 4 * 16 + b.toNat / 16) (by omega),
          value?_letter (n := b.toNat % 16 * 4 + c.toNat / 64) (by omega),
          value?_letter (n := c.toNat % 64) (by omega), bind, Option.bind, pure,
          decode_encode bs]
        rw [ofNat_eq (a := a) (by omega), ofNat_eq (a := b) (by omega),
          ofNat_eq (a := c) (by omega)]
      · simp [hs]
      · simp [hs]

/-! ## The URL-safe text without padding -/

/-- The letters that differ in the URL-safe alphabet. -/
def toUrlsafe (c : Char) : Char := if c = '+' then '-' else if c = '/' then '_' else c

def ofUrlsafe (c : Char) : Char := if c = '-' then '+' else if c = '_' then '/' else c

/-- `base64.urlsafe_b64encode(value)`. -/
def urlsafeEncode (bs : List UInt8) : List Char := (encode bs).map toUrlsafe

/-- `base64.urlsafe_b64decode(text)`: what is no letter is dropped. -/
def urlsafeDecode (s : List Char) : Option (List UInt8) :=
  decode ((s.map ofUrlsafe).filter fun c => c = '=' ∨ (value? c).isSome)

/-- `text.rstrip("=")`. -/
def rstripPadding (s : List Char) : List Char := s.rdropWhile (· = '=')

/-- `text + "=" * (-len(text) % 4)`. -/
def padded (s : List Char) : List Char := s ++ List.replicate ((4 - s.length % 4) % 4) '='

/-- A text of a base64 encoding, before its padding. -/
structure Unpadded (s : List Char) (n : ℕ) : Prop where
  letters : ∀ c ∈ s, ∃ k < 64, c = letter k
  length_eq : s.length = (4 * n + 2) / 3

theorem encode_eq_padded : ∀ bs : List UInt8, ∃ s, encode bs = padded s ∧ Unpadded s bs.length
  | [] => ⟨[], rfl, by simp, rfl⟩
  | [a] => by
      have ha := a.toNat_lt
      refine ⟨[letter (a.toNat / 4), letter (a.toNat % 4 * 16)], rfl, ?_, by simp⟩
      simp only [List.forall_mem_cons, List.not_mem_nil, false_implies, implies_true, and_true]
      exact ⟨⟨_, by omega, rfl⟩, ⟨_, by omega, rfl⟩⟩
  | [a, b] => by
      have ha := a.toNat_lt
      have hb := b.toNat_lt
      refine ⟨[letter (a.toNat / 4), letter (a.toNat % 4 * 16 + b.toNat / 16),
        letter (b.toNat % 16 * 4)], rfl, ?_, by simp⟩
      simp only [List.forall_mem_cons, List.not_mem_nil, false_implies, implies_true, and_true]
      exact ⟨⟨_, by omega, rfl⟩, ⟨_, by omega, rfl⟩, ⟨_, by omega, rfl⟩⟩
  | a :: b :: c :: bs => by
      have ha := a.toNat_lt
      have hb := b.toNat_lt
      have hc := c.toNat_lt
      obtain ⟨s, hs, hletters, hlength⟩ := encode_eq_padded bs
      refine ⟨letter (a.toNat / 4) :: letter (a.toNat % 4 * 16 + b.toNat / 16) ::
        letter (b.toNat % 16 * 4 + c.toNat / 64) :: letter (c.toNat % 64) :: s, ?_, ?_, ?_⟩
      · have hmod : (s.length + 1 + 1 + 1 + 1) % 4 = s.length % 4 := by omega
        rw [encode, hs, padded, padded]
        simp only [List.length_cons, hmod, List.cons_append]
      · simp only [List.forall_mem_cons]
        exact ⟨⟨_, by omega, rfl⟩, ⟨_, by omega, rfl⟩, ⟨_, by omega, rfl⟩, ⟨_, by omega, rfl⟩,
          hletters⟩
      · simp only [List.length_cons, hlength]
        omega

theorem ofUrlsafe_toUrlsafe {k : ℕ} (hk : k < 64) :
    ofUrlsafe (toUrlsafe (letter k)) = letter k := by
  have hall : ∀ k : Fin 64, ofUrlsafe (toUrlsafe (letter k)) = letter k := by decide
  exact hall ⟨k, hk⟩

theorem toUrlsafe_ne_pad {k : ℕ} (hk : k < 64) : toUrlsafe (letter k) ≠ '=' := by
  have hall : ∀ k : Fin 64, toUrlsafe (letter k) ≠ '=' := by decide
  exact hall ⟨k, hk⟩

theorem map_padded (s : List Char) {f : Char → Char} (h : f '=' = '=') :
    (padded s).map f = padded (s.map f) := by
  simp [padded, h]

theorem rstripPadding_padded {s : List Char} (h : ∀ c ∈ s, c ≠ '=') :
    rstripPadding (padded s) = s := by
  have hreplicate : ∀ n, (s ++ List.replicate n '=').rdropWhile (· = '=') = s := by
    intro n
    induction n with
    | zero =>
      rw [List.replicate_zero, List.append_nil, List.rdropWhile_eq_self_iff]
      intro hne
      simpa using h _ (List.getLast_mem hne)
    | succ n ih =>
      rw [List.replicate_succ', ← List.append_assoc, List.rdropWhile_concat_pos _ _ _ (by simp), ih]
  exact hreplicate _

/-- The text without padding, as its letters. -/
theorem exists_urlsafe (bs : List UInt8) : ∃ s, encode bs = padded s ∧ Unpadded s bs.length ∧
    rstripPadding (urlsafeEncode bs) = s.map toUrlsafe := by
  obtain ⟨s, hs, hunpadded⟩ := encode_eq_padded bs
  refine ⟨s, hs, hunpadded, ?_⟩
  rw [urlsafeEncode, hs, map_padded s (by decide), rstripPadding_padded]
  intro c hc
  obtain ⟨d, hd, rfl⟩ := List.mem_map.mp hc
  obtain ⟨k, hk, rfl⟩ := hunpadded.letters d hd
  exact toUrlsafe_ne_pad hk

/-- The text without padding decodes after the padding is put back. -/
theorem urlsafeDecode_padded (bs : List UInt8) :
    urlsafeDecode (padded (rstripPadding (urlsafeEncode bs))) = some bs := by
  obtain ⟨s, hs, hunpadded, hstrip⟩ := exists_urlsafe bs
  have hmap : (s.map toUrlsafe).map ofUrlsafe = s := by
    rw [List.map_map, List.map_congr_left (g := id) (fun c hc => ?_), List.map_id]
    obtain ⟨k, hk, rfl⟩ := hunpadded.letters c hc
    exact ofUrlsafe_toUrlsafe hk
  have hfilter : (padded s).filter (fun c => c = '=' ∨ (value? c).isSome) = padded s := by
    refine List.filter_eq_self.mpr fun c hc => ?_
    rw [padded, List.mem_append] at hc
    rcases hc with hc | hc
    · obtain ⟨k, hk, rfl⟩ := hunpadded.letters c hc
      simp [value?_letter hk]
    · simp [List.eq_of_mem_replicate hc]
  rw [hstrip, urlsafeDecode, map_padded _ (by decide), hmap, hfilter, ← hs, decode_encode]

theorem toNat_le_of_mem_rstripPadding {bs : List UInt8} {c : Char}
    (h : c ∈ rstripPadding (urlsafeEncode bs)) : c.toNat ≤ 127 := by
  obtain ⟨s, -, hunpadded, hstrip⟩ := exists_urlsafe bs
  rw [hstrip] at h
  obtain ⟨d, hd, rfl⟩ := List.mem_map.mp h
  obtain ⟨k, hk, rfl⟩ := hunpadded.letters d hd
  have hall : ∀ k : Fin 64, (toUrlsafe (letter k)).toNat ≤ 127 := by decide
  exact hall ⟨k, hk⟩

theorem length_rstripPadding (bs : List UInt8) :
    (rstripPadding (urlsafeEncode bs)).length = (4 * bs.length + 2) / 3 := by
  obtain ⟨s, -, hunpadded, hstrip⟩ := exists_urlsafe bs
  rw [hstrip, List.length_map, hunpadded.length_eq]

end Lib.Base64
