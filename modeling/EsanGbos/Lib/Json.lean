import Mathlib.Data.Bool.AllAny
import Mathlib.Data.List.Basic
import Mathlib.Data.List.TakeWhile
import Mathlib.Logic.Function.Basic
import Mathlib.Tactic.IntervalCases

/-!
# JSON values and their compact text

`dumps` writes a value without white space and without escaping characters beyond
ASCII; the writer sorts no keys, so an object lists its members in the order a
sorting writer would give them and equal mappings are equal values. `loads` reads
that text back. The round trip makes the text an injective code: a digest of the
text identifies the value.

## Main definitions

* `Json.dumps`, `Json.loads` — the compact writer and its reader.
* `Json.loads_dumps`, `Json.dumps_injective` — the round trip and what it gives.
* `Json.dumpsAscii_injective` — the same for the text without characters beyond ASCII.
* `Json.get?`, `Json.isInt`, `Json.strs?` — the accessors and type tests of a consumer.
-/
namespace Lib

/-- The characters a number's text may use, the names of the non-finite ones included. -/
def isNumberChar (c : Char) : Bool := c.isDigit || "+-.eENaInfity".toList.contains c

/-- The text of a number with a fraction, an exponent or a non-finite value. -/
def isReal (s : List Char) : Bool :=
  s.all isNumberChar && s.any "EeIN.".toList.contains &&
    match s with
    | c :: _ => c.isDigit || c == '-' || c == 'N' || c == 'I'
    | [] => false

/-- A JSON value. A number that is not an integer is kept as its text. -/
inductive Json where
  | null
  | bool (b : Bool)
  | int (i : ℤ)
  | real (lexeme : {s : List Char // isReal s})
  | str (s : String)
  | arr (elements : List Json)
  | obj (members : List (String × Json))

namespace Json

/-! ## Writing -/

private def hexDigits : List Char := "0123456789abcdef".toList

/-- The escapes of a string literal: the two delimiters and the control characters. -/
def escapeChar (c : Char) : List Char :=
  if c = '"' then ['\\', '"']
  else if c = '\\' then ['\\', '\\']
  else if c = '\n' then ['\\', 'n']
  else if c = '\r' then ['\\', 'r']
  else if c = '\t' then ['\\', 't']
  else if c = '\x08' then ['\\', 'b']
  else if c = '\x0c' then ['\\', 'f']
  else if c.toNat < 32 then
    ['\\', 'u', '0', '0', hexDigits.getD (c.toNat / 16) '0', hexDigits.getD (c.toNat % 16) '0']
  else [c]

def quote (s : String) : List Char := '"' :: (s.toList.flatMap escapeChar ++ ['"'])

def intText : ℤ → List Char
  | .ofNat n => Nat.toDigits 10 n
  | .negSucc n => '-' :: Nat.toDigits 10 (n + 1)

mutual
/-- `json.dumps(value, ensure_ascii=False, separators=(",", ":"))`. -/
def dumps : Json → List Char
  | null => "null".toList
  | bool true => "true".toList
  | bool false => "false".toList
  | int i => intText i
  | real x => x.1
  | str s => quote s
  | arr [] => ['[', ']']
  | arr (x :: xs) => '[' :: (dumps x ++ dumpsElements xs)
  | obj [] => ['{', '}']
  | obj ((k, v) :: ms) => '{' :: (quote k ++ ':' :: (dumps v ++ dumpsMembers ms))

/-- The elements after the first, and the closing bracket. -/
def dumpsElements : List Json → List Char
  | [] => [']']
  | x :: xs => ',' :: (dumps x ++ dumpsElements xs)

/-- The members after the first, and the closing brace. -/
def dumpsMembers : List (String × Json) → List Char
  | [] => ['}']
  | (k, v) :: ms => ',' :: (quote k ++ ':' :: (dumps v ++ dumpsMembers ms))
end

/-- The escape of a UTF-16 code unit. -/
def unicodeEscape (n : ℕ) : List Char :=
  ['\\', 'u', hexDigits.getD (n / 4096) '0', hexDigits.getD (n / 256 % 16) '0',
    hexDigits.getD (n / 16 % 16) '0', hexDigits.getD (n % 16) '0']

/-- A character beyond the printable ASCII ones, as its code units. -/
def asciiChar (c : Char) : List Char :=
  let n := c.toNat
  if n ≤ 126 then [c]
  else if n < 65536 then unicodeEscape n
  else unicodeEscape (55296 + (n - 65536) / 1024) ++ unicodeEscape (56320 + (n - 65536) % 1024)

/-- `json.dumps(value, separators=(",", ":"))`: only the texts hold characters beyond ASCII. -/
def dumpsAscii (j : Json) : List Char := (dumps j).flatMap asciiChar

/-! ## Reading -/

private def hexValue (c : Char) : Option ℕ :=
  let i := hexDigits.idxOf c
  if i < 16 then some i else none

/-- The rest of a string literal after its opening quote. -/
def readString : List Char → Option (List Char × List Char)
  | '"' :: r => some ([], r)
  | '\\' :: 'u' :: '0' :: '0' :: a :: b :: r => do
      let hi ← hexValue a
      let lo ← hexValue b
      let (s, r) ← readString r
      some (Char.ofNat (16 * hi + lo) :: s, r)
  | '\\' :: c :: r => do
      let c ← match c with
        | '"' => some '"'
        | '\\' => some '\\'
        | 'n' => some '\n'
        | 'r' => some '\r'
        | 't' => some '\t'
        | 'b' => some '\x08'
        | 'f' => some '\x0c'
        | _ => none
      let (s, r) ← readString r
      some (c :: s, r)
  | c :: r => do
      let (s, r) ← readString r
      some (c :: s, r)
  | [] => none

def readInt (s : List Char) : Option ℤ :=
  let i : ℤ := match s with
    | '-' :: ds => -(Nat.ofDigitChars 10 ds 0 : ℤ)
    | ds => Nat.ofDigitChars 10 ds 0
  if intText i = s then some i else none

/-- A maximal run of number characters. -/
def readNumber (s : List Char) : Option (Json × List Char) :=
  let lexeme := s.takeWhile isNumberChar
  let rest := s.dropWhile isNumberChar
  match readInt lexeme with
  | some i => some (int i, rest)
  | none => if h : isReal lexeme then some (real ⟨lexeme, h⟩, rest) else none

mutual
/-- Read one value; the fuel bounds the number of tokens. -/
def readValue : ℕ → List Char → Option (Json × List Char)
  | 0, _ => none
  | _ + 1, 'n' :: 'u' :: 'l' :: 'l' :: r => some (null, r)
  | _ + 1, 't' :: 'r' :: 'u' :: 'e' :: r => some (bool true, r)
  | _ + 1, 'f' :: 'a' :: 'l' :: 's' :: 'e' :: r => some (bool false, r)
  | _ + 1, '"' :: r => do
      let (s, r) ← readString r
      some (str (String.ofList s), r)
  | _ + 1, '[' :: ']' :: r => some (arr [], r)
  | n + 1, '[' :: r => do
      let (x, r) ← readValue n r
      let (xs, r) ← readElements n r
      some (arr (x :: xs), r)
  | _ + 1, '{' :: '}' :: r => some (obj [], r)
  | n + 1, '{' :: r => do
      let (m, r) ← readMember n r
      let (ms, r) ← readMembers n r
      some (obj (m :: ms), r)
  | _ + 1, r => readNumber r

def readElements : ℕ → List Char → Option (List Json × List Char)
  | _ + 1, ']' :: r => some ([], r)
  | n + 1, ',' :: r => do
      let (x, r) ← readValue n r
      let (xs, r) ← readElements n r
      some (x :: xs, r)
  | _, _ => none

def readMember : ℕ → List Char → Option ((String × Json) × List Char)
  | n + 1, '"' :: r => do
      let (k, r) ← readString r
      match r with
      | ':' :: r =>
          let (v, r) ← readValue n r
          some ((String.ofList k, v), r)
      | _ => none
  | _, _ => none

def readMembers : ℕ → List Char → Option (List (String × Json) × List Char)
  | _ + 1, '}' :: r => some ([], r)
  | n + 1, ',' :: r => do
      let (m, r) ← readMember n r
      let (ms, r) ← readMembers n r
      some (m :: ms, r)
  | _, _ => none
end

/-- `json.loads` on compact text. -/
def loads (s : List Char) : Option Json :=
  match readValue (s.length + 1) s with
  | some (j, []) => some j
  | _ => none

/-! ## The round trip -/

/-- A text after which a number cannot continue. -/
def Stops (r : List Char) : Prop := ∀ c ∈ r.head?, isNumberChar c = false

@[simp] theorem stops_nil : Stops [] := by simp [Stops]
theorem stops_cons {c : Char} {r : List Char} (h : isNumberChar c = false) : Stops (c :: r) := by
  simpa [Stops] using h

private theorem readString_escapeChar (c : Char) (r : List Char) :
    readString (escapeChar c ++ r) = (readString r).map fun p => (c :: p.1, p.2) := by
  have hbind : ∀ c' : Char, (do let (s, r) ← readString r; some (c' :: s, r)) =
      (readString r).map fun p => (c' :: p.1, p.2) := by
    intro c'; cases readString r <;> rfl
  by_cases hctl : c.toNat < 32
  · obtain ⟨n, hn⟩ : ∃ n, n = c.toNat := ⟨_, rfl⟩
    have hc : c = Char.ofNat n := by rw [hn, Char.ofNat_toNat]
    rw [← hn] at hctl
    subst hc
    interval_cases n <;> exact hbind _
  · by_cases hq : c = '"'
    · subst hq; exact hbind _
    by_cases hb : c = '\\'
    · subst hb; exact hbind _
    have hne : ∀ d : Char, d.toNat < 32 → c ≠ d := by rintro d hd rfl; exact hctl hd
    have hesc : escapeChar c = [c] := by
      simp [escapeChar, hq, hb, hctl, hne '\n' (by decide), hne '\r' (by decide),
        hne '\t' (by decide), hne '\x08' (by decide), hne '\x0c' (by decide)]
    rw [hesc, List.singleton_append, readString.eq_def]
    split <;> simp_all

theorem readString_escape (s r : List Char) :
    readString (s.flatMap escapeChar ++ '"' :: r) = some (s, r) := by
  induction s with
  | nil => simp [readString]
  | cons c s ih => rw [List.flatMap_cons, List.append_assoc, readString_escapeChar, ih]; rfl

/-! ### Numbers -/

theorem intText_ne_nil (i : ℤ) : intText i ≠ [] := by
  cases i <;> simp [intText, Nat.toDigits_ne_nil]

theorem isNumberChar_of_mem_intText {i : ℤ} {c : Char} (h : c ∈ intText i) :
    isNumberChar c = true := by
  have hdigit : ∀ n, c ∈ Nat.toDigits 10 n → isNumberChar c = true := by
    intro n hn
    simp [isNumberChar, Nat.isDigit_of_mem_toDigits (by decide) (by decide) hn]
  cases i with
  | ofNat n => exact hdigit n h
  | negSucc n =>
      rcases List.mem_cons.mp h with rfl | h
      · decide
      · exact hdigit _ h

theorem readInt_intText (i : ℤ) : readInt (intText i) = some i := by
  have hval : (match intText i with
      | '-' :: ds => -(Nat.ofDigitChars 10 ds 0 : ℤ)
      | ds => Nat.ofDigitChars 10 ds 0) = i := by
    cases i with
    | ofNat n =>
        have hne : ∀ ds, Nat.toDigits 10 n ≠ '-' :: ds := by
          intro ds h
          have hd := Nat.isDigit_of_mem_toDigits (b := 10) (n := n) (c := '-') (by decide)
            (by decide) (by simp [h])
          exact absurd hd (by decide)
        simp only [intText, Nat.ofDigitChars_ten_toDigits]
        rfl
    | negSucc n =>
        simp only [intText, Nat.ofDigitChars_ten_toDigits]
        rfl
  unfold readInt
  simp only [hval, if_true]

/-- The scan for number characters takes exactly the lexeme. -/
theorem scan_lexeme {l r : List Char} (hl : ∀ c ∈ l, isNumberChar c = true) (hr : Stops r) :
    (l ++ r).takeWhile isNumberChar = l ∧ (l ++ r).dropWhile isNumberChar = r := by
  have hr' : r.takeWhile isNumberChar = [] ∧ r.dropWhile isNumberChar = r := by
    cases r with
    | nil => simp
    | cons c r => simp [hr c (by simp)]
  rw [List.takeWhile_append_of_pos hl, List.dropWhile_append_of_pos hl, hr'.1, hr'.2]
  simp

theorem readNumber_intText (i : ℤ) {r : List Char} (hr : Stops r) :
    readNumber (intText i ++ r) = some (int i, r) := by
  obtain ⟨ht, hd⟩ := scan_lexeme (fun c => isNumberChar_of_mem_intText (i := i)) hr
  simp only [readNumber, ht, hd, readInt_intText]

/-- The text of a real is not the text of an integer. -/
theorem readInt_real (x : {s : List Char // isReal s}) : readInt x.1 = none := by
  have hne : ∀ i : ℤ, intText i ≠ x.1 := by
    intro i h
    have hx := x.2
    simp only [isReal, Bool.and_eq_true, List.any_eq_true] at hx
    obtain ⟨c, hc, hmark⟩ := hx.1.2
    have hmark : c ∈ ['E', 'e', 'I', 'N', '.'] := by simpa using hmark
    have hint : c = '-' ∨ c.isDigit = true := by
      rw [← h] at hc
      cases i with
      | ofNat n => exact .inr (Nat.isDigit_of_mem_toDigits (by decide) (by decide) hc)
      | negSucc n =>
          rcases List.mem_cons.mp hc with rfl | hc
          · exact .inl rfl
          · exact .inr (Nat.isDigit_of_mem_toDigits (by decide) (by decide) hc)
    rcases hint with rfl | hdig
    · exact absurd hmark (by decide)
    · simp only [List.mem_cons, List.not_mem_nil, or_false] at hmark
      rcases hmark with rfl | rfl | rfl | rfl | rfl <;> exact absurd hdig (by decide)
  exact if_neg (hne _)

theorem readNumber_real (x : {s : List Char // isReal s}) {r : List Char} (hr : Stops r) :
    readNumber (x.1 ++ r) = some (real x, r) := by
  have hall : ∀ c ∈ x.1, isNumberChar c = true := by
    have := x.2
    simp only [isReal, Bool.and_eq_true, List.all_eq_true] at this
    exact this.1.1
  obtain ⟨ht, hd⟩ := scan_lexeme hall hr
  simp only [readNumber, ht, hd, readInt_real, x.2, dif_pos]

/-- Every number starts with a character that starts no other value. -/
theorem readValue_number {c : Char} (h : c.isDigit = true ∨ c = '-' ∨ c = 'N' ∨ c = 'I')
    (n : ℕ) (s : List Char) : readValue (n + 1) (c :: s) = readNumber (c :: s) := by
  have hne : c ≠ 'n' ∧ c ≠ 't' ∧ c ≠ 'f' ∧ c ≠ '"' ∧ c ≠ '[' ∧ c ≠ '{' := by
    refine ⟨?_, ?_, ?_, ?_, ?_, ?_⟩ <;>
      (rintro rfl; rcases h with h | h | h | h <;> exact absurd h (by decide))
  obtain ⟨h1, h2, h3, h4, h5, h6⟩ := hne
  rw [readValue] <;> simp_all

/-! ### Values -/

theorem stops_dumpsElements (xs : List Json) (r : List Char) : Stops (dumpsElements xs ++ r) := by
  cases xs <;> exact stops_cons (by decide)

theorem stops_dumpsMembers (ms : List (String × Json)) (r : List Char) :
    Stops (dumpsMembers ms ++ r) := by
  rcases ms with _ | ⟨⟨k, v⟩, ms⟩ <;> exact stops_cons (by decide)

theorem readString_quote (k : String) (r : List Char) :
    readString (k.toList.flatMap escapeChar ++ '"' :: r) = some (k.toList, r) :=
  readString_escape _ _

theorem readValue_int (i : ℤ) (n : ℕ) {r : List Char} (hr : Stops r) :
    readValue (n + 1) (intText i ++ r) = some (int i, r) := by
  cases hi : intText i with
  | nil => exact absurd hi (intText_ne_nil i)
  | cons c s =>
      have hc : c.isDigit = true ∨ c = '-' ∨ c = 'N' ∨ c = 'I' := by
        cases i with
        | ofNat m =>
            refine .inl (Nat.isDigit_of_mem_toDigits (b := 10) (n := m) (by decide) (by decide) ?_)
            simp only [intText] at hi
            simp [hi]
        | negSucc m => simp only [intText, List.cons.injEq] at hi; exact .inr (.inl hi.1.symm)
      rw [List.cons_append, readValue_number hc, ← List.cons_append, ← hi, readNumber_intText i hr]

theorem readValue_real (x : {s : List Char // isReal s}) (n : ℕ) {r : List Char} (hr : Stops r) :
    readValue (n + 1) (x.1 ++ r) = some (real x, r) := by
  have hx := x.2
  cases hs : x.1 with
  | nil => rw [hs] at hx; exact absurd hx (by decide)
  | cons c s =>
      have hc : c.isDigit = true ∨ c = '-' ∨ c = 'N' ∨ c = 'I' := by
        rw [hs] at hx
        simp only [isReal, Bool.and_eq_true, Bool.or_eq_true, beq_iff_eq] at hx
        rcases hx.2 with ((h | h) | h) | h <;> simp [h]
      rw [List.cons_append, readValue_number hc, ← List.cons_append, ← hs, readNumber_real x hr]

/-- No value is empty or starts with a closing bracket. -/
theorem dumps_eq_cons (j : Json) : ∃ c t, dumps j = c :: t ∧ c ≠ ']' := by
  have hnumber : ∀ s : List Char, s ≠ [] → (∀ c ∈ s, isNumberChar c = true) →
      ∃ c t, s = c :: t ∧ c ≠ ']' := by
    intro s hs hall
    obtain ⟨c, t, rfl⟩ := List.exists_cons_of_ne_nil hs
    refine ⟨c, t, rfl, ?_⟩
    rintro rfl
    exact absurd (hall ']' (by simp)) (by decide)
  cases j with
  | int i => exact hnumber _ (intText_ne_nil i) fun c => isNumberChar_of_mem_intText
  | real x =>
      obtain ⟨s, hs⟩ := x
      refine hnumber s ?_ ?_
      · rintro rfl; exact absurd hs (by decide)
      · simp only [isReal, Bool.and_eq_true, List.all_eq_true] at hs
        exact hs.1.1
  | bool b => cases b <;> exact ⟨_, _, rfl, by decide⟩
  | arr xs => cases xs <;> exact ⟨_, _, rfl, by decide⟩
  | obj ms => rcases ms with _ | ⟨⟨k, v⟩, ms⟩ <;> exact ⟨_, _, rfl, by decide⟩
  | null => exact ⟨_, _, rfl, by decide⟩
  | str s => exact ⟨_, _, rfl, by decide⟩

mutual
/-- The reader inverts the writer; the length of the text is fuel enough. -/
theorem readValue_dumps : ∀ (j : Json) (n : ℕ) (r : List Char), (dumps j).length ≤ n → Stops r →
    readValue n (dumps j ++ r) = some (j, r)
  | j, 0, r, h, _ => by
      obtain ⟨c, t, hj, -⟩ := dumps_eq_cons j
      simp [hj] at h
  | null, n + 1, r, _, _ => rfl
  | bool true, n + 1, r, _, _ => rfl
  | bool false, n + 1, r, _, _ => rfl
  | int i, n + 1, r, _, hr => readValue_int i n hr
  | real x, n + 1, r, _, hr => readValue_real x n hr
  | str s, n + 1, r, _, _ => by
      simp [dumps, quote, readValue, readString_quote]
  | arr [], n + 1, r, _, _ => rfl
  | arr (x :: xs), n + 1, r, h, _ => by
      simp only [dumps, List.length_cons, List.length_append] at h
      have hx := readValue_dumps x n (dumpsElements xs ++ r) (by omega) (stops_dumpsElements xs r)
      have hxs := readElements_dumps xs n r (by omega)
      obtain ⟨c, t, hc, hne⟩ := dumps_eq_cons x
      simp only [dumps, List.cons_append, List.append_assoc, hc] at hx ⊢
      rw [readValue]
      · simp [hx, hxs]
      · rintro r' ⟨⟩
        exact hne rfl
  | obj [], n + 1, r, _, _ => rfl
  | obj ((k, v) :: ms), 1, r, h, _ => by
      simp [dumps, quote] at h
  | obj ((k, v) :: ms), n + 2, r, h, _ => by
      simp only [dumps, quote, List.length_cons, List.length_append] at h
      have hv := readValue_dumps v n (dumpsMembers ms ++ r) (by omega) (stops_dumpsMembers ms r)
      have hms := readMembers_dumps ms (n + 1) r (by omega)
      simp [dumps, quote, readValue, readMember, readString_quote, hv, hms]

theorem readElements_dumps : ∀ (xs : List Json) (n : ℕ) (r : List Char),
    (dumpsElements xs).length ≤ n → readElements n (dumpsElements xs ++ r) = some (xs, r)
  | xs, 0, r, h => by
      cases xs <;> simp [dumpsElements] at h
  | [], n + 1, r, _ => rfl
  | x :: xs, n + 1, r, h => by
      simp only [dumpsElements, List.length_cons, List.length_append] at h
      have hx := readValue_dumps x n (dumpsElements xs ++ r) (by omega) (stops_dumpsElements xs r)
      have hxs := readElements_dumps xs n r (by omega)
      simp [dumpsElements, readElements, hx, hxs]

theorem readMembers_dumps : ∀ (ms : List (String × Json)) (n : ℕ) (r : List Char),
    (dumpsMembers ms).length ≤ n → readMembers n (dumpsMembers ms ++ r) = some (ms, r)
  | ms, 0, r, h => by
      rcases ms with _ | ⟨⟨k, v⟩, ms⟩ <;> simp [dumpsMembers] at h
  | [], n + 1, r, _ => rfl
  | (k, v) :: ms, 1, r, h => by
      simp [dumpsMembers, quote] at h
  | (k, v) :: ms, n + 2, r, h => by
      simp only [dumpsMembers, quote, List.length_cons, List.length_append] at h
      have hv := readValue_dumps v n (dumpsMembers ms ++ r) (by omega) (stops_dumpsMembers ms r)
      have hms := readMembers_dumps ms (n + 1) r (by omega)
      simp [dumpsMembers, quote, readMembers, readMember, readString_quote, hv, hms]
end

@[simp] theorem loads_dumps (j : Json) : loads (dumps j) = some j := by
  have h := readValue_dumps j ((dumps j).length + 1) [] (Nat.le_succ _) stops_nil
  rw [List.append_nil] at h
  simp only [loads, h]

theorem dumps_injective : Function.Injective dumps := by
  intro i j h
  have := loads_dumps i
  rw [h, loads_dumps] at this
  exact (Option.some.inj this).symm

instance : DecidableEq Json := fun i j =>
  decidable_of_iff (dumps i = dumps j) dumps_injective.eq_iff

/-! ## The text without characters beyond ASCII -/

/-- The number that four hexadecimal digits spell. -/
def codeUnit (a b c d : Char) : ℕ :=
  4096 * hexDigits.idxOf a + 256 * hexDigits.idxOf b + 16 * hexDigits.idxOf c + hexDigits.idxOf d

/-- Undo the escapes of characters beyond ASCII, and of no others. -/
def unescapeAscii : List Char → List Char
  | '\\' :: 'u' :: a :: b :: c :: d :: r =>
      let n := codeUnit a b c d
      if n < 127 then '\\' :: 'u' :: a :: b :: c :: d :: unescapeAscii r
      else if 55296 ≤ n ∧ n < 56320 then
        match r with
        | _ :: _ :: a' :: b' :: c' :: d' :: r =>
            Char.ofNat (65536 + (n - 55296) * 1024 + (codeUnit a' b' c' d' - 56320)) :: unescapeAscii r
        | _ => []
      else Char.ofNat n :: unescapeAscii r
  | '\\' :: c :: r => '\\' :: c :: unescapeAscii r
  | c :: r => c :: unescapeAscii r
  | [] => []

/-- Every backslash begins an escape of `escapeChar`. -/
inductive Escaped : List Char → Prop
  | nil : Escaped []
  | char {c : Char} {s : List Char} (hc : c ≠ '\\') (hs : Escaped s) : Escaped (c :: s)
  | pair {c : Char} {s : List Char} (hc : c ≠ 'u') (hascii : c.toNat ≤ 126) (hs : Escaped s) : Escaped ('\\' :: c :: s)
  | control {n : ℕ} {s : List Char} (hn : n < 32) (hs : Escaped s) :
      Escaped (['\\', 'u', '0', '0', hexDigits.getD (n / 16) '0', hexDigits.getD (n % 16) '0'] ++ s)

theorem Escaped.append {s t : List Char} (hs : Escaped s) (ht : Escaped t) : Escaped (s ++ t) := by
  induction hs with
  | nil => exact ht
  | char hc hs ih => exact .char hc ih
  | pair hc hascii hs ih => exact .pair hc hascii ih
  | control hn hs ih => exact .control hn ih

theorem idxOf_hexDigits {n : ℕ} (h : n < 16) : hexDigits.idxOf (hexDigits.getD n '0') = n := by
  interval_cases n <;> rfl

/-- The digits of a code unit spell it. -/
theorem codeUnit_digits {n : ℕ} (h : n < 65536) :
    codeUnit (hexDigits.getD (n / 4096) '0') (hexDigits.getD (n / 256 % 16) '0')
      (hexDigits.getD (n / 16 % 16) '0') (hexDigits.getD (n % 16) '0') = n := by
  rw [codeUnit, idxOf_hexDigits (by omega), idxOf_hexDigits (by omega), idxOf_hexDigits (by omega),
    idxOf_hexDigits (by omega)]
  omega

theorem escaped_of_forall {s : List Char} (h : ∀ c ∈ s, c ≠ '\\') : Escaped s := by
  induction s with
  | nil => exact .nil
  | cons c s ih =>
      obtain ⟨hc, hs⟩ := List.forall_mem_cons.mp h
      exact .char hc (ih hs)


theorem escaped_escapeChar (c : Char) : Escaped (escapeChar c) := by
  by_cases hbackslash : c = '\\'
  · subst hbackslash
    exact .pair (by decide) (by decide) .nil
  · unfold escapeChar
    split_ifs
    all_goals first
      | exact .char hbackslash .nil
      | exact .pair (by decide) (by decide) .nil
      | exact .control ‹_› .nil

theorem escaped_quote (s : String) : Escaped (quote s) := by
  have hchars : ∀ t : List Char, Escaped (t.flatMap escapeChar) := by
    intro t
    induction t with
    | nil => exact .nil
    | cons c t ih => exact (escaped_escapeChar c).append ih
  exact .char (by decide) ((hchars _).append (.char (by decide) .nil))

theorem escaped_number {s : List Char} (h : ∀ c ∈ s, isNumberChar c = true) : Escaped s := by
  refine escaped_of_forall fun c hc => ?_
  rintro rfl
  exact absurd (h _ hc) (by decide)

mutual
theorem escaped_dumps : ∀ j : Json, Escaped (dumps j)
  | null | bool true | bool false => escaped_of_forall (List.all_iff_forall_prop.mp (by decide))
  | int i => escaped_number fun _ hc => isNumberChar_of_mem_intText hc
  | real x => by
      have hchars := x.2
      simp only [isReal, Bool.and_eq_true, List.all_eq_true] at hchars
      exact escaped_number hchars.1.1
  | str s => escaped_quote s
  | arr [] | obj [] => escaped_of_forall (List.all_iff_forall_prop.mp (by decide))
  | arr (x :: xs) => .char (by decide) ((escaped_dumps x).append (escaped_dumpsElements xs))
  | obj ((k, v) :: ms) => .char (by decide) ((escaped_quote k).append
      (.char (by decide) ((escaped_dumps v).append (escaped_dumpsMembers ms))))

theorem escaped_dumpsElements : ∀ xs : List Json, Escaped (dumpsElements xs)
  | [] => .char (by decide) .nil
  | x :: xs => .char (by decide) ((escaped_dumps x).append (escaped_dumpsElements xs))

theorem escaped_dumpsMembers : ∀ ms : List (String × Json), Escaped (dumpsMembers ms)
  | [] => .char (by decide) .nil
  | (k, v) :: ms => .char (by decide) ((escaped_quote k).append
      (.char (by decide) ((escaped_dumps v).append (escaped_dumpsMembers ms))))
end

theorem unescapeAscii_cons {c : Char} (h : c ≠ '\\') (r : List Char) :
    unescapeAscii (c :: r) = c :: unescapeAscii r := by
  rw [unescapeAscii.eq_def]
  split <;> simp_all

theorem unescapeAscii_pair {c : Char} (h : c ≠ 'u') (r : List Char) :
    unescapeAscii ('\\' :: c :: r) = '\\' :: c :: unescapeAscii r := by
  rw [unescapeAscii.eq_def]
  split
  next heq => simp_all
  next heq => simp_all
  next hpair heq =>
      obtain ⟨rfl, rfl⟩ := List.cons.inj heq
      exact absurd rfl (hpair c r rfl)
  next heq => simp_all

/-- A code unit that is not a surrogate. -/
theorem unescapeAscii_unicodeEscape {n : ℕ} (hn : n < 65536) (hascii : 127 ≤ n)
    (hsurrogate : n < 55296 ∨ 56320 ≤ n) (r : List Char) :
    unescapeAscii (unicodeEscape n ++ r) = Char.ofNat n :: unescapeAscii r := by
  have hunit := codeUnit_digits hn
  change unescapeAscii ('\\' :: 'u' :: _ :: _ :: _ :: _ :: r) = _
  rw [unescapeAscii.eq_def]
  refine (if_neg (by omega)).trans ((if_neg (by omega)).trans ?_)
  rw [hunit]

/-- A pair of surrogates. -/
theorem unescapeAscii_surrogates {n m : ℕ} (hn : 55296 ≤ n ∧ n < 56320) (hm : m < 65536)
    (r : List Char) : unescapeAscii (unicodeEscape n ++ (unicodeEscape m ++ r)) =
      Char.ofNat (65536 + (n - 55296) * 1024 + (m - 56320)) :: unescapeAscii r := by
  have hunit := codeUnit_digits (n := n) (by omega)
  change unescapeAscii ('\\' :: 'u' :: _ :: _ :: _ :: _ :: '\\' :: 'u' :: _ :: _ :: _ :: _ :: r) = _
  rw [unescapeAscii.eq_def]
  refine (if_neg (by omega)).trans ((if_pos (by omega)).trans ?_)
  dsimp only
  rw [hunit, codeUnit_digits hm]

/-- The escape of a character is undone. -/
theorem unescapeAscii_asciiChar {c : Char} (hc : c ≠ '\\') (r : List Char) :
    unescapeAscii (asciiChar c ++ r) = c :: unescapeAscii r := by
  have hvalid : c.toNat < 55296 ∨ 57343 < c.toNat ∧ c.toNat < 1114112 := c.valid
  unfold asciiChar
  dsimp only
  split_ifs with hascii hbmp
  · exact unescapeAscii_cons hc r
  · rw [unescapeAscii_unicodeEscape hbmp (by omega) (by omega), Char.ofNat_toNat]
  · have hcode : 65536 + (55296 + (c.toNat - 65536) / 1024 - 55296) * 1024 +
        (56320 + (c.toNat - 65536) % 1024 - 56320) = c.toNat := by omega
    rw [List.append_assoc, unescapeAscii_surrogates (by omega) (by omega), hcode, Char.ofNat_toNat]

theorem asciiChar_of_le {c : Char} (h : c.toNat ≤ 126) : asciiChar c = [c] := if_pos h

theorem Escaped.unescapeAscii {s : List Char} (h : Escaped s) :
    Json.unescapeAscii (s.flatMap asciiChar) = s := by
  induction h with
  | nil => rfl
  | char hc hs ih => rw [List.flatMap_cons, unescapeAscii_asciiChar hc, ih]
  | pair hc hascii hs ih =>
      rw [List.flatMap_cons, List.flatMap_cons, asciiChar_of_le hascii,
        asciiChar_of_le (by decide), List.singleton_append, List.singleton_append,
        unescapeAscii_pair hc, ih]
  | @control n s hn hs ih =>
      have hcode : codeUnit '0' '0' (hexDigits.getD (n / 16) '0') (hexDigits.getD (n % 16) '0') =
          n := by
        interval_cases n <;> rfl
      have hdigit : ∀ d < 16, asciiChar (hexDigits.getD d '0') = [hexDigits.getD d '0'] := by
        intro d hd
        interval_cases d <;> rfl
      rw [List.flatMap_append, List.flatMap_cons, List.flatMap_cons, List.flatMap_cons,
        List.flatMap_cons, List.flatMap_cons, List.flatMap_cons, hdigit _ (by omega),
        hdigit _ (by omega)]
      change Json.unescapeAscii ('\\' :: 'u' :: '0' :: '0' :: _ :: _ :: s.flatMap asciiChar) = _
      rw [Json.unescapeAscii.eq_def]
      refine (if_pos (by omega)).trans ?_
      rw [ih]
      rfl

/-- The text determines the value also where characters beyond ASCII are escaped. -/
theorem dumpsAscii_injective : Function.Injective dumpsAscii := by
  intro i j h
  have hi := (escaped_dumps i).unescapeAscii
  have hj := (escaped_dumps j).unescapeAscii
  rw [dumpsAscii, dumpsAscii] at h
  rw [h, hj] at hi
  exact dumps_injective hi.symm

theorem toNat_le_of_mem_unicodeEscape {c : Char} {n : ℕ} (h : c ∈ unicodeEscape n) :
    c.toNat ≤ 127 := by
  have hdigit : ∀ d, (hexDigits.getD d '0').toNat ≤ 127 := by
    intro d
    by_cases hd : d < 16
    · interval_cases d <;> decide
    · have hnone : hexDigits[d]? = none := by
        rw [List.getElem?_eq_none_iff]
        have hlength : hexDigits.length = 16 := by decide
        omega
      rw [List.getD_eq_getElem?_getD, hnone]
      decide
  simp only [unicodeEscape, List.mem_cons, List.not_mem_nil, or_false] at h
  rcases h with rfl | rfl | rfl | rfl | rfl | rfl
  · decide
  · decide
  · exact hdigit _
  · exact hdigit _
  · exact hdigit _
  · exact hdigit _

/-- The text is ASCII. -/
theorem toNat_le_of_mem_dumpsAscii {j : Json} {c : Char} (h : c ∈ dumpsAscii j) :
    c.toNat ≤ 127 := by
  obtain ⟨d, -, hd⟩ := List.mem_flatMap.mp h
  unfold asciiChar at hd
  dsimp only at hd
  split at hd
  next hle =>
    rw [List.mem_singleton.mp hd]
    omega
  next =>
    split at hd
    next => exact toNat_le_of_mem_unicodeEscape hd
    next =>
      rcases List.mem_append.mp hd with hd | hd
      · exact toNat_le_of_mem_unicodeEscape hd
      · exact toNat_le_of_mem_unicodeEscape hd

/-- The literal of an ASCII text is at most six times as long, and its quotes. -/
theorem length_quote_le {s : String} (h : ∀ c ∈ s.toList, c.toNat ≤ 126) :
    ((quote s).flatMap asciiChar).length ≤ 6 * s.toList.length + 2 := by
  have hchar : ∀ c : Char, c.toNat ≤ 126 → ((escapeChar c).flatMap asciiChar).length ≤ 6 := by
    intro c hc
    obtain ⟨n, hn⟩ : ∃ n, n = c.toNat := ⟨_, rfl⟩
    have heq : c = Char.ofNat n := by rw [hn, Char.ofNat_toNat]
    rw [← hn] at hc
    subst heq
    interval_cases n <;> decide
  have hbody : ∀ l : List Char, (∀ c ∈ l, c.toNat ≤ 126) →
      ((l.flatMap escapeChar).flatMap asciiChar).length ≤ 6 * l.length := by
    intro l
    induction l with
    | nil => simp
    | cons c l ih =>
      intro hl
      obtain ⟨hc, hl⟩ := List.forall_mem_cons.mp hl
      have hhead := hchar c hc
      have htail := ih hl
      rw [List.flatMap_cons, List.flatMap_append, List.length_append, List.length_cons]
      omega
  have hquote : asciiChar '"' = ['"'] := by decide
  have hle := hbody s.toList h
  rw [quote, List.flatMap_cons, List.flatMap_append, List.flatMap_singleton, hquote,
    List.singleton_append, List.length_cons, List.length_append, List.length_singleton]
  omega

/-- `json.loads(text)`, on compact ASCII text. -/
def loadsAscii (s : List Char) : Option Json := loads (unescapeAscii s)

theorem loadsAscii_dumpsAscii (j : Json) : loadsAscii (dumpsAscii j) = some j := by
  rw [loadsAscii, dumpsAscii, (escaped_dumps j).unescapeAscii, loads_dumps]

/-! ## Access -/

/-- `value.get(name)`; a value that is not an object has no members. -/
def get? (j : Json) (name : String) : Option Json :=
  match j with
  | obj ms => (ms.find? (·.1 = name)).map Prod.snd
  | _ => none

/-- The value is an object with exactly these member names. -/
def hasKeys (j : Json) (names : List String) : Bool :=
  match j with
  | obj ms => (ms.map Prod.fst).all (· ∈ names) && names.all (· ∈ ms.map Prod.fst)
  | _ => false

def isObj : Json → Bool
  | obj _ => true
  | _ => false

/-- `isinstance(value, int)`, which a boolean satisfies too. -/
def isInt : Json → Bool
  | int _ => true
  | bool _ => true
  | _ => false

/-- The number an integer or boolean is. -/
def toInt : Json → ℤ
  | int i => i
  | bool b => b.toNat
  | _ => 0

def str? : Json → Option String
  | str s => some s
  | _ => none

def arr? : Json → Option (List Json)
  | arr xs => some xs
  | _ => none

/-- The elements of an array of strings. -/
def strs? (j : Json) : Option (List String) := do
  let xs ← j.arr?
  xs.mapM str?

def ofStrs (xs : List String) : Json := arr (xs.map str)

def ofOption {α : Type} (f : α → Json) : Option α → Json
  | some a => f a
  | none => null

theorem ofStrs_injective : Function.Injective ofStrs := by
  intro xs ys h
  exact List.map_injective_iff.mpr (fun a b hab => by simpa using hab) (arr.inj h)

theorem strs?_ofStrs (xs : List String) : (ofStrs xs).strs? = some xs := by
  change (xs.map str).mapM str? = some xs
  induction xs with
  | nil => rfl
  | cons x xs ih => simp [str?, ih]

end Json
end Lib
