import EsanGbos.Lib.Cursor
import EsanGbos.Lib.Naive
import EsanGbos.Lib.Proc

/-!
# Names and cursors of the Frappe app

A document is named by a prefix and a ULID, and a list continues after the row that its cursor
names by the time of its last change and its name. A cursor is refused when it is too long, so it
matters how long the names are.

## Main definitions

* `makeGbosName` — the name that a document gets.
* `encodeCursor`, `decodeCursor` — the cursors of the lists of the app.

## Main results

* `decodeCursor_encodeCursor` — a cursor whose length is within the bound is read back.
* `fitsCursor_of_isGbosName` — the cursors of named documents are.
-/
namespace EsanGbos.App
open Lib

/-- `BFFError`. -/
structure BffError where
  code : String
  message : String
  status : ℕ
deriving DecidableEq, Repr

/-! ## Names -/

/-- `_CROCKFORD`. -/
def crockford : List Char := "0123456789ABCDEFGHJKMNPQRSTVWXYZ".toList

/-- `_encode_crockford(value, length)`. -/
def encodeCrockford : ℕ → ℕ → List Char
  | _, 0 => []
  | value, length + 1 =>
      encodeCrockford (value / 32) length ++ [crockford.getD (value % 32) '0']

/-- `make_gbos_name(prefix)`, for the upper-case prefixes of the app; `value` holds the time and the
random bits of the ULID. -/
def makeGbosName (label : String) (value : ℕ) : String :=
  String.ofList (label.toList ++ '-' :: encodeCrockford value 26)

theorem length_encodeCrockford (value length : ℕ) :
    (encodeCrockford value length).length = length := by
  induction length generalizing value with
  | zero => rfl
  | succ length ih => rw [encodeCrockford, List.length_append, ih, List.length_singleton]

theorem mem_crockford_of_mem {value length : ℕ} {c : Char} (h : c ∈ encodeCrockford value length) :
    c ∈ crockford := by
  induction length generalizing value with
  | zero => cases h
  | succ length ih =>
    rw [encodeCrockford, List.mem_append, List.mem_singleton] at h
    rcases h with h | rfl
    · exact ih h
    · have hall : ∀ k : Fin 32, crockford.getD k '0' ∈ crockford := by decide
      exact hall ⟨value % 32, Nat.mod_lt _ (by decide)⟩

/-- Names with different labels of one length are different. -/
theorem makeGbosName_ne {label label' : String} {value value' : ℕ}
    (hlength : label.toList.length = label'.toList.length) (h : label ≠ label') :
    makeGbosName label value ≠ makeGbosName label' value' := by
  intro heq
  have hlist := String.ofList_injective heq
  exact h (String.toList_inj.mp (List.append_inj hlist hlength).1)

/-! ## Cursors -/

/-- What Python reads and digests. -/
structure Platform where
  /-- `datetime.fromisoformat` accepts the text. -/
  fromisoformat : List Char → Bool
  fromisoformat_text : ∀ d : Naive, fromisoformat d.text = true
  /-- `frappe.parse_json` of a text; no value where it raises. The members of an object come in the
  order of their names. -/
  parseJson : String → Option Json
  /-- `hashlib.sha256(text.encode()).hexdigest()`. -/
  sha256 : List Char → String

/-- `encode_cursor(modified, name)`. -/
def encodeCursor (modified name : String) : String :=
  String.ofList (Cursor.encode (.arr [.str modified, .str name]))

/-- `decode_cursor(cursor)`; no value where it raises `CursorError`. -/
def decodeCursor (platform : Platform) (cursor : String) : Option (String × String) :=
  if 512 < cursor.toList.length ∨ cursor.toList.any (127 < ·.toNat) then none
  else match Cursor.decode cursor.toList with
    | some (.arr [.str modified, .str name]) =>
        if modified = "" ∨ name = "" ∨ 64 < modified.toList.length ∨ 140 < name.toList.length ∨
            platform.fromisoformat modified.toList = false then none
        else some (modified, name)
    | _ => none

/-- The cursor of a request, read; an empty one is none. -/
def readCursor (platform : Platform) (cursor : Option String) :
    Except BffError (Option (String × String)) :=
  match cursor with
  | none => .ok none
  | some cursor =>
      if cursor = "" then .ok none
      else match decodeCursor platform cursor with
        | some value => .ok (some value)
        | none => .error ⟨"invalid_cursor", "invalid cursor", 400⟩

/-- The cursor and its parts are within the bounds of the reader. -/
def FitsCursor (modified name : String) : Prop :=
  (encodeCursor modified name).toList.length ≤ 512 ∧ name ≠ "" ∧ name.toList.length ≤ 140

instance (modified name : String) : Decidable (FitsCursor modified name) :=
  inferInstanceAs (Decidable (_ ∧ _ ∧ _))

/-- `str(modified)` of a row. -/
def modifiedText (modified : Naive) : String := String.ofList modified.text

theorem modifiedText_ne (modified : Naive) : modifiedText modified ≠ "" := by
  intro h
  have hnil : (modifiedText modified).toList = "".toList := congrArg String.toList h
  rw [modifiedText, String.toList_ofList] at hnil
  exact modified.text_ne_nil hnil

theorem length_modifiedText_le (modified : Naive) : (modifiedText modified).toList.length ≤ 26 := by
  rw [modifiedText, String.toList_ofList]
  exact modified.length_text_le

/-- A cursor within the bounds is read back. -/
theorem decodeCursor_encodeCursor {platform : Platform} {modified : Naive} {name : String}
    (h : FitsCursor (modifiedText modified) name) :
    decodeCursor platform (encodeCursor (modifiedText modified) name) =
      some (modifiedText modified, name) := by
  obtain ⟨hlength, hname, hnameLength⟩ := h
  have hmodified := length_modifiedText_le modified
  have hascii : (encodeCursor (modifiedText modified) name).toList.any (127 < ·.toNat) = false := by
    rw [encodeCursor, String.toList_ofList, List.any_eq_false]
    intro c hc
    simpa using Cursor.toNat_le_of_mem_encode hc
  have hiso : platform.fromisoformat (modifiedText modified).toList = true := by
    rw [modifiedText, String.toList_ofList, platform.fromisoformat_text]
  rw [decodeCursor, if_neg (by simp [hascii, hlength]), encodeCursor, String.toList_ofList,
    Cursor.decode_encode]
  exact if_neg (by simp [modifiedText_ne, hname, hiso]; omega)

/-- A cursor beyond the bounds is refused. -/
theorem decodeCursor_eq_none {platform : Platform} {modified name : String}
    (h : ¬ FitsCursor modified name) :
    decodeCursor platform (encodeCursor modified name) = none := by
  by_cases hlength : (encodeCursor modified name).toList.length ≤ 512
  · have hname : name = "" ∨ 140 < name.toList.length := by
      by_contra hfits
      rw [not_or, Nat.not_lt] at hfits
      exact h ⟨hlength, hfits⟩
    unfold decodeCursor
    split
    next => rfl
    next =>
      rw [encodeCursor, String.toList_ofList, Cursor.decode_encode]
      refine if_pos ?_
      rcases hname with hname | hname
      · exact .inr (.inl hname)
      · exact .inr (.inr (.inr (.inl hname)))
  · exact if_pos (.inl (Nat.lt_of_not_le hlength))

theorem encodeCursor_ne (modified name : String) : encodeCursor modified name ≠ "" := by
  intro h
  have hlength : (Cursor.encode (.arr [.str modified, .str name])).length = 0 := by
    rw [← String.toList_ofList (l := Cursor.encode _), ← encodeCursor, h]
    rfl
  have hpos : 0 < (Json.dumpsAscii (.arr [.str modified, .str name])).length := by
    have hbracket : Json.asciiChar '[' = ['['] := by decide
    rw [Json.dumpsAscii, Json.dumps, List.flatMap_cons, hbracket]
    exact Nat.succ_pos _
  rw [Cursor.length_encode] at hlength
  omega

/-- A request reads the cursor of a row exactly when the cursor fits. -/
theorem readCursor_encodeCursor {platform : Platform} {modified : Naive} {name : String}
    (h : FitsCursor (modifiedText modified) name) :
    readCursor platform (some (encodeCursor (modifiedText modified) name)) =
      .ok (some (modifiedText modified, name)) := by
  rw [readCursor, if_neg (encodeCursor_ne _ _), decodeCursor_encodeCursor h]

theorem readCursor_eq_error {platform : Platform} {modified name : String}
    (h : ¬ FitsCursor modified name) :
    readCursor platform (some (encodeCursor modified name)) =
      .error ⟨"invalid_cursor", "invalid cursor", 400⟩ := by
  rw [readCursor, if_neg (encodeCursor_ne _ _), decodeCursor_eq_none h]

theorem length_encodeCursor_le {modified name : String} (hm : ∀ c ∈ modified.toList, c.toNat ≤ 126)
    (hn : ∀ c ∈ name.toList, c.toNat ≤ 126) : (encodeCursor modified name).toList.length ≤
      (4 * (6 * modified.toList.length + 6 * name.toList.length + 7) + 2) / 3 := by
  have hmodified := Json.length_quote_le hm
  have hname := Json.length_quote_le hn
  have htext : (Json.dumpsAscii (.arr [.str modified, .str name])).length =
      ((Json.quote modified).flatMap Json.asciiChar).length +
        ((Json.quote name).flatMap Json.asciiChar).length + 3 := by
    have hbracket : Json.asciiChar '[' = ['['] := by decide
    have hcomma : Json.asciiChar ',' = [','] := by decide
    have hclose : Json.asciiChar ']' = [']'] := by decide
    simp [Json.dumpsAscii, Json.dumps, Json.dumpsElements, hbracket, hcomma, hclose]
    omega
  rw [encodeCursor, String.toList_ofList, Cursor.length_encode, htext]
  omega

theorem toNat_le_of_mem_modifiedText {modified : Naive} {c : Char}
    (h : c ∈ (modifiedText modified).toList) : c.toNat ≤ 126 := by
  rw [modifiedText, String.toList_ofList] at h
  exact modified.toNat_le_of_mem_text h

/-- The names of documents are short enough for a cursor. -/
theorem fitsCursor_makeGbosName {label : String} (value : ℕ) (modified : Naive)
    (hlength : label.toList.length = 3) (hlabel : ∀ c ∈ label.toList, c.toNat ≤ 126) :
    FitsCursor (modifiedText modified) (makeGbosName label value) := by
  have hname : (makeGbosName label value).toList.length = 30 := by
    rw [makeGbosName, String.toList_ofList, List.length_append, List.length_cons,
      length_encodeCrockford, hlength]
  have hascii : ∀ c ∈ (makeGbosName label value).toList, c.toNat ≤ 126 := by
    intro c hc
    rw [makeGbosName, String.toList_ofList, List.mem_append, List.mem_cons] at hc
    rcases hc with hc | rfl | hc
    · exact hlabel c hc
    · decide
    · have hall : ∀ d ∈ crockford, d.toNat ≤ 126 :=
        List.all_iff_forall_prop.mp (by decide)
      exact hall c (mem_crockford_of_mem hc)
  have hcursor := length_encodeCursor_le (fun c => @toNat_le_of_mem_modifiedText modified c) hascii
  have hmodified := length_modifiedText_le modified
  refine ⟨by omega, fun hempty => ?_, by omega⟩
  rw [hempty] at hname
  revert hname
  decide

end EsanGbos.App
