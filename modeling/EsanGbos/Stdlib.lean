import EsanGbos.Lib.Json
import EsanGbos.Lib.Regex
import EsanGbos.Lib.Datetime
import Mathlib.Data.List.DropRight

/-!
# The Python standard library, as the services use it

Texts are lists of characters and identifiers are strings. What Python takes from a
table or from a hash is a parameter: the Unicode database behind the character classes
and `str.casefold`, SHA-256, HMAC, and the reader of ISO 8601 texts. No property of a
parameter is assumed here; a result that needs one says so.

## Main definitions

* `Stdlib` — the parameters.
* `Stdlib.ascii` — the parameters on ASCII text, with chosen digests.
-/
namespace EsanGbos
open Lib

structure Stdlib where
  /-- `hashlib.sha256(text.encode()).hexdigest()`. -/
  sha256 : List Char → String
  /-- `hmac.new(key, text.encode(), hashlib.sha256).hexdigest()`. -/
  hmac : List UInt8 → List Char → String
  /-- Full case folding of one character. -/
  foldChar : Char → List Char
  /-- `\w`, `\d` and `\s` of a Unicode pattern. -/
  isWord : Char → Bool
  isDigit : Char → Bool
  isSpace : Char → Bool
  /-- The characters that a character of a pattern matches under `re.IGNORECASE`. -/
  sameLetter : Char → Char → Bool
  /-- `datetime.fromisoformat`: no value for a text it rejects, `some none` for a naive
  datetime. -/
  fromisoformat : List Char → Option (Option Datetime)

namespace Stdlib
variable (py : Stdlib)

/-- `str.casefold()`. -/
def casefold (s : List Char) : List Char := s.flatMap py.foldChar

/-- The ASCII part of the parameters. A text with no digest in the table is its own
digest behind a mark, so that different texts keep different digests. -/
def ascii (digests : List (List Char × String)) : Stdlib where
  sha256 s := (digests.lookup s).getD (String.ofList ('#' :: s))
  hmac _ s := String.ofList s
  foldChar c := [c.toLower]
  isWord c := c.isAlphanum || c == '_'
  isDigit c := c.isDigit
  isSpace c := c.isWhitespace
  sameLetter c d := c.toLower == d.toLower
  fromisoformat _ := some none

theorem ascii_sha256_injective : Function.Injective (ascii []).sha256 := by
  intro s t h
  have h : String.ofList ('#' :: s) = String.ofList ('#' :: t) := h
  exact (List.cons.inj (String.ofList_injective h)).2

end Stdlib

/-! ## Text -/

/-- `needle in text`. -/
def containsText (needle text : List Char) : Bool := text.tails.any needle.isPrefixOf

/-- `text.replace(old, new)`; `skip` characters of an occurrence are still to be dropped. -/
def replaceFrom (old new : List Char) : ℕ → List Char → List Char
  | _, [] => []
  | skip + 1, _ :: s => replaceFrom old new skip s
  | 0, c :: s =>
      if old.isPrefixOf (c :: s) then new ++ replaceFrom old new (old.length - 1) s
      else c :: replaceFrom old new 0 s

def replace (s old new : List Char) : List Char := replaceFrom old new 0 s

/-- The characters `[a-z0-9]`. -/
def isSlugChar (c : Char) : Bool := c.isLower || c.isDigit

/-- `re.sub(r"[^a-z0-9]+", "_", s)`; `run` says that a run has been replaced already. -/
def squashFrom : Bool → List Char → List Char
  | _, [] => []
  | run, c :: s =>
      if isSlugChar c then c :: squashFrom false s
      else if run then squashFrom true s else '_' :: squashFrom true s

/-- `s.strip("_")`. -/
def stripUnderscores (s : List Char) : List Char :=
  ((s.dropWhile (· == '_')).reverse.dropWhile (· == '_')).reverse

/-- The normalization of an object key: `re.sub(r"[^a-z0-9]+", "_", s).strip("_")`. -/
def slug (s : List Char) : List Char := stripUnderscores (squashFrom false s)

/-- `re.fullmatch(r"[a-f0-9]{64}", s)`. -/
def isDigest (s : String) : Bool :=
  s.toList.length = 64 && s.toList.all fun c => "0123456789abcdef".toList.contains c

/-- The characters that `s.strip()` removes. -/
def isWhitespace (c : Char) : Bool :=
  let n := c.toNat
  (9 ≤ n && n ≤ 13) || (28 ≤ n && n ≤ 32) || (0x2000 ≤ n && n ≤ 0x200A) ||
    [0x85, 0xA0, 0x1680, 0x2028, 0x2029, 0x202F, 0x205F, 0x3000].contains n

/-- `s.strip()`. -/
def strip (s : String) : String :=
  String.ofList ((s.toList.dropWhile isWhitespace).rdropWhile isWhitespace)

/-- The text is not empty, not longer than `maximum`, and `s.strip()` leaves it alone. -/
def isIdentifier (maximum : ℕ) (s : String) : Bool :=
  !s.toList.isEmpty && !s.toList.head?.any isWhitespace && !s.toList.getLast?.any isWhitespace &&
    s.toList.length ≤ maximum

/-- The order of texts in an `ORDER BY` of the database. -/
structure Collation where
  le : String → String → Bool

/-- Code points decide. -/
def codePoints : Collation := ⟨fun a b => a ≤ b⟩

/-! ## Timestamps -/

/-- A `timestamptz` of PostgreSQL: an instant, in microseconds. -/
abbrev Timestamptz := ℤ

/-- `timedelta(seconds=n)`. -/
def seconds (n : ℤ) : Timedelta := n * 1000000

/-- `timedelta(days=n)`. -/
def days (n : ℤ) : Timedelta := n * microsPerDay

/-- `value.astimezone(UTC).isoformat().replace("+00:00", "Z")`; out of range near the
ends of the calendar, where the conversion to UTC overflows. -/
def timestamp (d : Datetime) : Option (List Char) :=
  (Datetime.of? d.instant 0).map fun u => replace u.isoformat "+00:00".toList ['Z']

/-- A word that ends a text free of its first letter is replaced there. -/
theorem replace_append {c : Char} {old s : List Char} (new : List Char) (hs : ∀ d ∈ s, d ≠ c) :
    replace (s ++ c :: old) (c :: old) new = s ++ new := by
  have hskip : ∀ t : List Char, replaceFrom (c :: old) new t.length t = [] := by
    intro t
    induction t with
    | nil => rfl
    | cons d t ih => exact ih
  unfold replace
  induction s with
  | nil => simp [replaceFrom, hskip]
  | cons d s ih =>
      obtain ⟨hd, hs⟩ := List.forall_mem_cons.mp hs
      rw [List.cons_append, replaceFrom, if_neg, ih hs]
      · rfl
      · simp [List.isPrefixOf, Ne.symm hd]

theorem timestamp_utc {d : Datetime} (h : d.utcoffset = 0) :
    timestamp d = some (replace d.isoformat "+00:00".toList ['Z']) := by
  have hof : Datetime.of? d.instant 0 = some d := by rw [← h]; exact d.of?_self
  rw [timestamp, hof, Option.map_some]

/-- The mark of a UTC timestamp can be undone. -/
theorem replace_timestamp {d : Datetime} {s : List Char} (h : d.utcoffset = 0)
    (hs : timestamp d = some s) : replace s ['Z'] "+00:00".toList = d.isoformat := by
  obtain ⟨t, ht, hclock⟩ := Datetime.isoformat_utc h
  have hne : ∀ c : Char, Datetime.isClockChar c = false → ∀ d ∈ t, d ≠ c := by
    rintro c hc d hd rfl
    rw [hclock d hd] at hc
    cases hc
  have hutc : "+00:00".toList = ['+', '0', '0', ':', '0', '0'] := by decide
  rw [timestamp_utc h, Option.some.injEq, hutc, ht, replace_append _ (hne '+' (by decide))] at hs
  rw [← hs, hutc, ht, replace_append _ (hne 'Z' (by decide))]

namespace Stdlib
variable (py : Stdlib)

/-- `datetime.fromisoformat` reads what `isoformat` writes. -/
def ReadsIsoformat : Prop := ∀ d : Datetime, py.fromisoformat d.isoformat = some (some d)

/-- `hexdigest` writes 64 hexadecimal digits. -/
def HexDigests : Prop := ∀ s, isDigest (py.sha256 s) = true

/-- Every character folds to some letter. -/
def FoldsLetters : Prop := ∀ c, py.foldChar c ≠ []

/-- The digest of a text by its length, for a few texts of different lengths. -/
def digestByLength (digests : List (ℕ × String)) (s : List Char) : String :=
  (digests.lookup s.length).getD (String.ofList (List.replicate 64 '0'))

/-- The ASCII parameters with the digests and codes of a few texts. -/
noncomputable def sample (digests codes : List (ℕ × String)) : Stdlib :=
  { ascii [] with
    sha256 := digestByLength digests
    hmac := fun _ => digestByLength codes
    fromisoformat := fun s => (Function.partialInv Datetime.isoformat s).map some }

theorem sample_readsIsoformat (digests codes : List (ℕ × String)) :
    (sample digests codes).ReadsIsoformat := by
  intro d
  have hinv := Function.partialInv_left Datetime.isoformat_injective d
  simp only [sample, hinv, Option.map_some]

theorem sample_hexDigests {digests : List (ℕ × String)} (codes : List (ℕ × String))
    (h : ∀ e ∈ digests, isDigest e.2 = true) : (sample digests codes).HexDigests := by
  intro s
  have hzero : isDigest (String.ofList (List.replicate 64 '0')) = true := by
    simp only [isDigest, String.toList_ofList]
    decide
  change isDigest ((digests.lookup s.length).getD _) = true
  cases hlookup : digests.lookup s.length with
  | none => exact hzero
  | some d =>
      obtain ⟨l₁, l₂, hl, -⟩ := List.lookup_eq_some_iff.mp hlookup
      exact h (s.length, d) (by rw [hl]; simp)

end Stdlib
/-- The first microsecond of 2026. -/
def newYear : Datetime := ⟨63902822400000000, 0, by decide, by decide⟩

/-- A time of that January. -/
def newYearAt (micros : ℕ) : Datetime where
  instant := 63902822400000000 + (min micros 2999999999999 : ℕ)
  utcoffset := 0
  offset_lt := newYear.offset_lt
  wall_mem := by unfold maxWall microsPerDay; omega

end EsanGbos
