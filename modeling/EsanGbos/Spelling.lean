import Mathlib.Data.List.Chain
import Mathlib.Data.List.Infix
import Mathlib.Data.Rat.Init
import EsanGbos.Stdlib

/-!
# Spellings of the keys of a document

A screen for the keys of a document writes each key in one form and looks it up in a list of
names. Here is what a spelling of a name is: letter case says nothing, and the boundaries of
camelCase and every run of other characters separate words.

A screen that puts a mark before every capital reads a word in capitals as so many words of one
letter. Where no name of the list has such a word, it finds the spellings without two capitals in
a row, and no others.

## Main definitions

* `Json.keys`, `Json.strings` — the keys and the texts of a document, at any depth.
* `Stdlib.Spells` — the spellings of the names of a list.
* `splitCapitals` — the marks of a screen.

## Main results

* `Stdlib.mem_splitCapitals_iff` — the spellings that the marks find.
-/
namespace Lib.Json

/-! ## Documents -/

mutual
/-- The keys of the objects in a document. -/
def keys : Json → List String
  | .obj ms => keysOfMembers ms
  | .arr xs => keysOfElements xs
  | _ => []

def keysOfMembers : List (String × Json) → List String
  | [] => []
  | (key, nested) :: ms => key :: (keys nested ++ keysOfMembers ms)

def keysOfElements : List Json → List String
  | [] => []
  | x :: xs => keys x ++ keysOfElements xs
end

mutual
/-- The texts in a document that are values. -/
def strings : Json → List String
  | .str s => [s]
  | .obj ms => stringsOfMembers ms
  | .arr xs => stringsOfElements xs
  | _ => []

def stringsOfMembers : List (String × Json) → List String
  | [] => []
  | (_, nested) :: ms => strings nested ++ stringsOfMembers ms

def stringsOfElements : List Json → List String
  | [] => []
  | x :: xs => strings x ++ stringsOfElements xs
end

mutual
/-- Some key of the document satisfies `p`: a key of an object is looked at before what it
names. -/
def containsKey (p : String → Bool) : Json → Bool
  | .obj ms => membersContainKey p ms
  | .arr xs => elementsContainKey p xs
  | _ => false

def membersContainKey (p : String → Bool) : List (String × Json) → Bool
  | [] => false
  | (key, nested) :: ms => p key || containsKey p nested || membersContainKey p ms

def elementsContainKey (p : String → Bool) : List Json → Bool
  | [] => false
  | x :: xs => containsKey p x || elementsContainKey p xs
end

mutual
theorem containsKey_eq_any (p : String → Bool) : ∀ j : Json, containsKey p j = j.keys.any p
  | .obj ms => membersContainKey_eq_any p ms
  | .arr xs => elementsContainKey_eq_any p xs
  | .null | .bool _ | .int _ | .real _ | .str _ => rfl

theorem membersContainKey_eq_any (p : String → Bool) :
    ∀ ms : List (String × Json), membersContainKey p ms = (keysOfMembers ms).any p
  | [] => rfl
  | (key, nested) :: ms => by
      rw [membersContainKey, keysOfMembers, List.any_cons, List.any_append,
        containsKey_eq_any p nested, membersContainKey_eq_any p ms, Bool.or_assoc]

theorem elementsContainKey_eq_any (p : String → Bool) :
    ∀ xs : List Json, elementsContainKey p xs = (keysOfElements xs).any p
  | [] => rfl
  | x :: xs => by
      rw [elementsContainKey, keysOfElements, List.any_append, containsKey_eq_any p x,
        elementsContainKey_eq_any p xs]
end

/-- The number a value is, given the values of the numbers with a fraction or an exponent. -/
def number? (float : {s : List Char // isReal s} → Option ℚ) : Json → Option ℚ
  | .int i => some i
  | .bool b => some b.toNat
  | .real x => float x
  | _ => none

mutual
/-- `value == value'`: numbers are compared by value, and a boolean is a number. -/
def equals (float : {s : List Char // isReal s} → Option ℚ) : Json → Json → Bool
  | .null, .null => true
  | .str s, .str s' => s = s'
  | .arr xs, .arr xs' => elementsEqual float xs xs'
  | .obj ms, .obj ms' => membersEqual float ms ms'
  | j, j' => (j.number? float).isSome && j.number? float = j'.number? float

def elementsEqual (float : {s : List Char // isReal s} → Option ℚ) : List Json → List Json → Bool
  | [], [] => true
  | x :: xs, x' :: xs' => equals float x x' && elementsEqual float xs xs'
  | _, _ => false

def membersEqual (float : {s : List Char // isReal s} → Option ℚ) :
    List (String × Json) → List (String × Json) → Bool
  | [], [] => true
  | m :: ms, m' :: ms' => m.1 = m'.1 && equals float m.2 m'.2 && membersEqual float ms ms'
  | _, _ => false
end

/-- The search fails exactly if no key is found. -/
theorem containsKey_eq_false_iff {p : String → Bool} {j : Json} :
    containsKey p j = false ↔ ∀ key ∈ j.keys, p key = false := by
  rw [containsKey_eq_any, List.any_eq_false]
  simp

end Lib.Json

namespace EsanGbos
open Lib

/-! ## Spellings -/

/-- The marks of a key after its first character: a capital begins a word if the character before
it is none, or if it ends a run of capitals and a small letter follows. -/
def splitCamelFrom : Char → List Char → List Char
  | _, [] => []
  | previous, c :: cs =>
      if c.isUpper && (!previous.isUpper || cs.head?.any Char.isLower) then
        '_' :: c :: splitCamelFrom c cs
      else c :: splitCamelFrom c cs

/-- A mark at every boundary of camelCase. -/
def splitCamel : List Char → List Char
  | [] => []
  | c :: cs => c :: splitCamelFrom c cs

/-- `re.sub(r"(?<!^)(?=[A-Z])", "_", key)`: a mark before each capital but the first letter. -/
def splitCapitals : List Char → List Char
  | [] => []
  | c :: cs => c :: cs.flatMap fun d => if d.isUpper then ['_', d] else [d]

/-- No capital follows a capital. -/
def Separated (key : String) : Prop :=
  key.toList.IsChain fun c d => ¬(c.isUpper = true ∧ d.isUpper = true)

/-- No name has a word of one letter before another word. -/
def areWordy (names : List String) : Bool :=
  names.all fun name => ('_' :: name.toList).tails.all fun
    | '_' :: c :: '_' :: _ => c == '_'
    | _ => true

namespace Stdlib
variable (py : Stdlib)

/-- Letters of ASCII fold to small letters. -/
def FoldsAscii : Prop := ∀ c : Char, c.toNat < 128 → py.foldChar c = [c.toLower]

/-- The key is a spelling of one of the names. -/
def Spells (names : List String) (key : String) : Prop :=
  String.ofList (slug (py.casefold (splitCamel key.toList))) ∈ names

end Stdlib

/-! ## Marks -/

theorem splitCamelFrom_of_isChain {previous : Char} {cs : List Char}
    (h : (previous :: cs).IsChain fun c d => ¬(c.isUpper = true ∧ d.isUpper = true)) :
    splitCamelFrom previous cs = cs.flatMap fun d => if d.isUpper then ['_', d] else [d] := by
  induction cs generalizing previous with
  | nil => rfl
  | cons c cs ih =>
      obtain ⟨hne, hcs⟩ := List.isChain_cons_cons.mp h
      rw [splitCamelFrom, ih hcs, List.flatMap_cons]
      by_cases hc : c.isUpper = true
      · have hprevious : previous.isUpper = false := by
          rw [Bool.eq_false_iff]
          exact fun hprevious => hne ⟨hprevious, hc⟩
        simp [hc, hprevious]
      · simp [hc]

/-- Without two capitals in a row the marks are those of camelCase. -/
theorem splitCapitals_of_separated {key : String} (h : Separated key) :
    splitCapitals key.toList = splitCamel key.toList := by
  unfold Separated at h
  cases hkey : key.toList with
  | nil => rfl
  | cons c cs =>
      rw [hkey] at h
      rw [splitCapitals, splitCamel, splitCamelFrom_of_isChain h]

/-- Two capitals in a row are each a word. -/
theorem splitCapitals_append (a b : List Char) {c d : Char} (hc : c.isUpper = true)
    (hd : d.isUpper = true) :
    ∃ x y, '_' :: splitCapitals (a ++ c :: d :: b) = x ++ '_' :: c :: '_' :: d :: y := by
  cases a with
  | nil => exact ⟨[], b.flatMap fun d => if d.isUpper then ['_', d] else [d], by
      simp [splitCapitals, hd]⟩
  | cons e a => exact ⟨'_' :: e :: a.flatMap fun d => if d.isUpper then ['_', d] else [d],
      b.flatMap fun d => if d.isUpper then ['_', d] else [d], by simp [splitCapitals, hc, hd]⟩

/-! ## Slugs -/

theorem squashFrom_append (run : Bool) (x : List Char) {c : Char} (hc : isSlugChar c = true)
    (y : List Char) : ∃ p, (if run then ['_'] else []) ++ squashFrom run (x ++ '_' :: c :: y) =
      p ++ '_' :: c :: squashFrom false y := by
  have hmark : isSlugChar '_' = false := by decide
  induction x generalizing run with
  | nil => cases run <;> exact ⟨[], by simp [squashFrom, hmark, hc]⟩
  | cons e x ih =>
      by_cases he : isSlugChar e = true
      · obtain ⟨p, hp⟩ := ih false
        refine ⟨(if run then ['_'] else []) ++ e :: p, ?_⟩
        simp only [Bool.false_eq_true, if_false, List.nil_append] at hp
        simp [squashFrom, he, hp]
      · obtain ⟨p, hp⟩ := ih true
        refine ⟨p, ?_⟩
        simp only [if_true, List.cons_append, List.nil_append] at hp
        cases run <;> simp [squashFrom, he, hp]

theorem dropWhile_append_cons {α : Type*} {p : α → Bool} {a : α} (ha : p a = false)
    (x y : List α) : (x ++ a :: y).dropWhile p = x.dropWhile p ++ a :: y := by
  induction x with
  | nil => simp [ha]
  | cons b x ih => by_cases hb : p b = true <;> simp [hb, ih]

/-- A mark in front of a text does not change its slug. -/
theorem slug_cons_mark (s : List Char) : slug ('_' :: s) = slug s := by
  have hmark : isSlugChar '_' = false := by decide
  have hdrop : (squashFrom true s).dropWhile (· == '_') =
      (squashFrom false s).dropWhile (· == '_') := by
    cases s with
    | nil => rfl
    | cons c s => by_cases hc : isSlugChar c = true <;> simp [squashFrom, hc]
  rw [slug, slug, stripUnderscores, stripUnderscores]
  simp only [squashFrom, hmark, Bool.false_eq_true, if_false]
  rw [List.dropWhile_cons_of_pos (by decide), hdrop]

/-- A letter between two marks is a word of the slug. -/
theorem slug_append (x y : List Char) {c d : Char} (hc : isSlugChar c = true)
    (hd : isSlugChar d = true) :
    ∃ p q, '_' :: slug (x ++ '_' :: c :: '_' :: d :: y) = p ++ '_' :: c :: '_' :: d :: q := by
  have hne : ∀ e : Char, isSlugChar e = true → (e == '_') = false := by
    intro e he
    rw [beq_eq_false_iff_ne]
    rintro rfl
    revert he
    decide
  have hmark : isSlugChar '_' = false := by decide
  obtain ⟨p, hp⟩ := squashFrom_append false x hc ('_' :: d :: y)
  simp only [Bool.false_eq_true, if_false, List.nil_append] at hp
  have hrest : squashFrom false ('_' :: d :: y) = '_' :: d :: squashFrom false y := by
    simp [squashFrom, hmark, hd]
  -- what is stripped on the left ends in a mark, or is all there was
  obtain ⟨l, hl⟩ : ∃ l, '_' :: (p ++ ['_']).dropWhile (· == '_') = l ++ ['_'] := by
    obtain ⟨r, hr⟩ := List.dropWhile_suffix (p := (· == '_')) (l := p ++ ['_'])
    cases hlast : (p ++ ['_']).dropWhile (· == '_') using List.reverseRecOn with
    | nil => exact ⟨[], rfl⟩
    | append_singleton l e _ =>
        rw [hlast, ← List.append_assoc] at hr
        obtain ⟨-, he⟩ := List.append_inj' hr rfl
        exact ⟨'_' :: l, by rw [he, List.cons_append]⟩
  refine ⟨l, ((squashFrom false y).reverse.dropWhile (· == '_')).reverse, ?_⟩
  have hassoc : p ++ '_' :: c :: '_' :: d :: squashFrom false y =
      (p ++ ['_']) ++ c :: '_' :: d :: squashFrom false y := by simp
  rw [slug, stripUnderscores, hp, hrest, hassoc,
    dropWhile_append_cons (p := (· == '_')) (hne c hc)]
  have hright : ((p ++ ['_']).dropWhile (· == '_') ++ c :: '_' :: d :: squashFrom false y).reverse =
      (squashFrom false y).reverse ++
        d :: ((p ++ ['_']).dropWhile (· == '_') ++ [c, '_']).reverse := by simp
  rw [hright, dropWhile_append_cons (p := (· == '_')) (hne d hd), List.reverse_append, List.reverse_cons,
    List.reverse_reverse, ← List.cons_append, ← List.cons_append, ← List.cons_append, hl]
  simp

/-! ## What the marks find -/

theorem isSlugChar_toLower {c : Char} (h : c.isUpper = true) : isSlugChar c.toLower = true := by
  have hbounds : 'A'.val ≤ c.val ∧ c.val ≤ 'Z'.val := of_decide_eq_true h
  have hval : c.toLower.val = c.val + 32 := congrArg Char.val (dif_pos hbounds)
  have hlow : 65 ≤ c.val.toNat := hbounds.1
  have hhigh : c.val.toNat ≤ 90 := hbounds.2
  have hnat : c.toLower.val.toNat = c.val.toNat + 32 := by
    rw [hval, UInt32.toNat_add]
    exact Nat.mod_eq_of_lt (by change c.val.toNat + 32 < _; omega)
  have hlower : c.toLower.isLower = true := by
    change (decide (97 ≤ c.toLower.val.toNat) && decide (c.toLower.val.toNat ≤ 122)) = true
    rw [Bool.and_eq_true, decide_eq_true_eq, decide_eq_true_eq, hnat]
    omega
  rw [isSlugChar, hlower, Bool.true_or]

namespace Stdlib
variable {py : Stdlib}

/-- Two capitals in a row leave a word of one letter. -/
theorem slug_of_not_separated (hfold : py.FoldsAscii) {key : String} (h : ¬Separated key) :
    ∃ p q c d, isSlugChar c = true ∧
      '_' :: slug (py.casefold (splitCapitals key.toList)) = p ++ '_' :: c :: '_' :: d :: q := by
  have hupper : ∀ c : Char, c.isUpper = true → py.foldChar c = [c.toLower] := by
    intro c hc
    refine hfold c ?_
    have hbounds : 'A'.val ≤ c.val ∧ c.val ≤ 'Z'.val := of_decide_eq_true hc
    have hle : c.val.toNat ≤ 90 := hbounds.2
    exact lt_of_le_of_lt hle (by decide)
  have hmark : py.foldChar '_' = ['_'] := hfold '_' (by decide)
  rw [Separated, List.isChain_iff_forall_rel_of_append_cons_cons] at h
  push Not at h
  obtain ⟨c, d, a, b, hkey, hc, hd⟩ := h
  obtain ⟨x, y, hsplit⟩ := splitCapitals_append a b hc hd
  obtain ⟨p, q, hslug⟩ := slug_append (py.casefold x) (py.casefold y) (isSlugChar_toLower hc)
    (isSlugChar_toLower hd)
  refine ⟨p, q, c.toLower, d.toLower, isSlugChar_toLower hc, ?_⟩
  have hcasefold : '_' :: py.casefold (splitCapitals key.toList) =
      py.casefold x ++ '_' :: c.toLower :: '_' :: d.toLower :: py.casefold y := by
    have h := congrArg py.casefold hsplit
    rw [← hkey] at h
    simpa only [casefold, List.flatMap_cons, List.flatMap_append, hmark, hupper c hc, hupper d hd,
      List.cons_append, List.nil_append] using h
  rw [← slug_cons_mark, hcasefold, hslug]

/-- The marks find the spellings without two capitals in a row. -/
theorem mem_splitCapitals_iff (hfold : py.FoldsAscii) {names : List String}
    (hnames : areWordy names = true) {key : String} :
    String.ofList (slug (py.casefold (splitCapitals key.toList))) ∈ names ↔
      py.Spells names key ∧ Separated key := by
  constructor
  · intro hmem
    have hseparated : Separated key := by
      by_contra hnot
      obtain ⟨p, q, c, d, hc, hslug⟩ := slug_of_not_separated hfold hnot
      have htails := List.all_eq_true.mp (List.all_eq_true.mp hnames _ hmem)
        ('_' :: c :: '_' :: d :: q) (by
          rw [List.mem_tails, String.toList_ofList, hslug]
          exact List.suffix_append p _)
      have hmark : c = '_' := by simpa using htails
      rw [hmark] at hc
      revert hc
      decide
    rw [splitCapitals_of_separated hseparated] at hmem
    exact ⟨hmem, hseparated⟩
  · rintro ⟨hspells, hseparated⟩
    rw [splitCapitals_of_separated hseparated]
    exact hspells

end Stdlib
end EsanGbos
