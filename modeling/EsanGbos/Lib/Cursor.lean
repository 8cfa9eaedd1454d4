import EsanGbos.Lib.Base64
import EsanGbos.Lib.Json

/-!
# Opaque cursors

A cursor is a JSON value as text: its compact ASCII text, in URL-safe base64 without the padding.

## Main definitions

* `utf8`, `ofUtf8` — the bytes of a text and back.
* `Cursor.encode`, `Cursor.decode` — the text of a cursor and its reader.

## Main results

* `Cursor.decode_encode`, `Cursor.length_encode` — the round trip, and the length of the text.
-/
namespace Lib

/-! ## UTF-8 -/

/-- `text.encode()`. -/
def utf8 (s : List Char) : List UInt8 := s.flatMap String.utf8EncodeChar

/-- `value.decode()`. -/
def ofUtf8 (bs : List UInt8) : Option (List Char) :=
  (String.fromUTF8? ⟨bs.toArray⟩).map String.toList

theorem ofUtf8_utf8 (s : List Char) : ofUtf8 (utf8 s) = some s := by
  have hbytes : (⟨(utf8 s).toArray⟩ : ByteArray) = (String.ofList s).toByteArray := by
    rw [String.toByteArray_ofList, List.utf8Encode, utf8]
    apply ByteArray.ext
    rw [List.data_toByteArray]
  have hread : String.fromUTF8? (String.ofList s).toByteArray = some (String.ofList s) := by
    rw [String.fromUTF8?, dif_pos (String.ofList s).isValidUTF8]
    rfl
  rw [ofUtf8, hbytes, hread, Option.map_some, String.toList_ofList]

/-- An ASCII text has a byte for every character. -/
theorem length_utf8 {s : List Char} (h : ∀ c ∈ s, c.toNat ≤ 127) : (utf8 s).length = s.length := by
  induction s with
  | nil => rfl
  | cons c s ih =>
    obtain ⟨hc, hs⟩ := List.forall_mem_cons.mp h
    have hsize : c.utf8Size = 1 := Char.utf8Size_eq_one_iff.mpr hc
    rw [utf8, List.flatMap_cons, List.length_append, String.length_utf8EncodeChar, hsize,
      List.length_cons, Nat.add_comm]
    exact congrArg (· + 1) (ih hs)

/-! ## Cursors -/

namespace Cursor

/-- `base64.urlsafe_b64encode(json.dumps(value, separators=(",", ":")).encode())` as a text, without
its padding. -/
def encode (j : Json) : List Char :=
  Base64.rstripPadding (Base64.urlsafeEncode (utf8 j.dumpsAscii))

/-- `json.loads(base64.urlsafe_b64decode(padded).decode())`. -/
def decode (s : List Char) : Option Json := do
  let bytes ← Base64.urlsafeDecode (Base64.padded s)
  let text ← ofUtf8 bytes
  Json.loadsAscii text

theorem decode_encode (j : Json) : decode (encode j) = some j := by
  rw [decode, encode, Base64.urlsafeDecode_padded]
  simp only [Option.bind_eq_bind, Option.bind_some, ofUtf8_utf8]
  exact Json.loadsAscii_dumpsAscii j

theorem length_encode (j : Json) : (encode j).length = (4 * j.dumpsAscii.length + 2) / 3 := by
  rw [encode, Base64.length_rstripPadding, length_utf8 fun c => Json.toNat_le_of_mem_dumpsAscii]

/-- The text of a cursor is ASCII. -/
theorem toNat_le_of_mem_encode {j : Json} {c : Char} (h : c ∈ encode j) : c.toNat ≤ 127 :=
  Base64.toNat_le_of_mem_rstripPadding h

end Cursor
end Lib
