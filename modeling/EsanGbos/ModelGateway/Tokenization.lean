import EsanGbos.Lib.Base64
import EsanGbos.Lib.Proc
import EsanGbos.Lib.Spans
import EsanGbos.Lib.Table
import EsanGbos.Stdlib

/-!
# The stable tokenizer and its vault

`StableTokenizer` replaces mail addresses, telephone numbers and given phrases by keyed
tokens and leaves the mapping in an `EncryptedFileMappingVault`. The vault is its files,
one for each record id; the cipher and its random bytes are parameters. A datetime
argument that is `none` is naive.

## Main definitions

* `replaceDetected` — detection, selection and replacement.
* `Vault.store`, `Vault.load` — the encrypted mapping records.
* `StableTokenizer.tokenize` — the whole call, with its receipt.
-/
namespace EsanGbos.ModelGateway
open Lib

inductive Raise where
  | valueError (message : String)
  | permissionError (message : String)
  | piiResidualError (message : String)
  | overflowError
deriving DecidableEq, Repr

/-! ## Detection -/

/-- `_EMAIL_PATTERN`. -/
def emailPattern (py : Stdlib) : Regex Char :=
  let localChar := fun c => py.isWord c || c == '.' || c == '+' || c == '-'
  let hostChar := fun c => py.isWord c || c == '-'
  .seqs [.notBehind localChar, .plus (.cls localChar), .cls (· == '@'), .plus (.cls hostChar),
    .plus (.seqs [.cls (· == '.'), .plus (.cls hostChar)]),
    .notAhead fun c => hostChar c || c == '.']

/-- `_PHONE_PATTERN`. -/
def phonePattern (py : Stdlib) : Regex Char :=
  let digit := Regex.cls py.isDigit
  let separator := Regex.opt (.cls fun c => py.isSpace c || c == '.' || c == '-')
  .seqs [.notBehind py.isWord,
    .opt (.seqs [.cls (· == '+'), .rep digit 1 (some 3), separator]),
    .rep (.seqs [.opt (.cls (· == '(')), .rep digit 2 (some 4), .opt (.cls (· == ')')), separator])
      2 (some 3),
    .rep digit 3 (some 4), .notAhead py.isWord]

inductive Kind where
  | email | phone | entity
deriving DecidableEq, Repr

def Kind.name : Kind → String
  | email => "EMAIL"
  | phone => "PHONE"
  | entity => "ENTITY"

structure Detected where
  plaintext : List Char
  kind : Kind
deriving DecidableEq, Repr

abbrev Match := Span Detected

/-- The matches of one pattern, with the text they cover. -/
def matchesOf (pattern : Regex Char) (kind : Kind) (text : List Char) : List Match :=
  (pattern.finditer text).map fun m => ⟨m.1, m.2, (text.take m.2).drop m.1, kind⟩

/-- `re.compile(re.escape(phrase), re.IGNORECASE)`. -/
def phrasePattern (py : Stdlib) (phrase : List Char) : Regex Char := .lit py.sameLetter phrase

/-- The phrases to look for, the longest first. The order of a set among phrases of one
length is not determined; their matches cover equal spans or different ones, and so are
sorted in the same way. -/
def distinctPhrases (phrases : List (List Char)) : List (List Char) :=
  (phrases.dedup.insertionSort fun a b => b.length ≤ a.length).filter (· ≠ [])

/-- The list `matches`: every candidate for replacement. -/
def candidates (py : Stdlib) (text : List Char) (phrases : List (List Char)) : List Match :=
  matchesOf (emailPattern py) .email text ++ matchesOf (phonePattern py) .phone text ++
    (distinctPhrases phrases).flatMap fun phrase =>
      matchesOf (phrasePattern py phrase) .entity text

/-- The list `selected`. -/
def selected (py : Stdlib) (text : List Char) (phrases : List (List Char)) : List Match :=
  Span.select [] ((candidates py text phrases).insertionSort Span.LeftmostLongest)

/-! ## Replacement -/

structure StableTokenizer where
  hmacKey : List UInt8
  tokenizerVersion : String
  key_length : 32 ≤ hmacKey.length

/-- The scope of a token. -/
structure Scope where
  siteId : String
  purpose : String
deriving DecidableEq, Repr

namespace StableTokenizer
variable (py : Stdlib) (self : StableTokenizer) (scope : Scope)

/-- The value under the HMAC of a token. -/
def scopedValue (m : Match) : List Char :=
  ['\x00'].intercalate [self.tokenizerVersion.toList, scope.siteId.toList, scope.purpose.toList,
    m.label.kind.name.toList, py.casefold m.label.plaintext]

/-- `_token`. -/
def token (m : Match) : List Char :=
  let digest := (py.hmac self.hmacKey (scopedValue py self scope m)).toList.take 24
  '<' :: (m.label.kind.name.toList ++ '_' :: (digest ++ ['>']))

/-- One round of the loop of `_replace_detected`: the output and the mapping so far. -/
def replaceOne (acc : List Char × Dict String String) (m : Match) :
    List Char × Dict String String :=
  (Span.splice (token py self scope) acc.1 m,
    acc.2.set (String.ofList (token py self scope m)) (String.ofList m.label.plaintext))

/-- `_replace_detected`. No two selected matches start at one place, so their tuples
compare by start. -/
def replaceDetected (text : List Char) (phrases : List (List Char)) :
    List Char × Dict String String :=
  ((selected py text phrases).insertionSort fun a b => b.start ≤ a.start).foldl
    (replaceOne py self scope) (text, .empty)

end StableTokenizer

/-- `contains_obvious_pii`. -/
def containsObviousPii (py : Stdlib) (text : List Char) : Bool :=
  (emailPattern py).isMatchIn text || (phonePattern py).isMatchIn text

/-! ## Documents -/

/-- The canonical JSON of a mapping, its members in key order. -/
def mappingDocument (mapping : Dict String String) : Json :=
  .obj ((mapping.items.insertionSort fun a b => a.1 ≤ b.1).map fun e => (e.1, .str e.2))

/-- `_scope_bytes`. -/
def scopeBytes (recordId : String) (scope : Scope) : List Char :=
  (Json.obj [("purpose", .str scope.purpose), ("record_id", .str recordId),
    ("site_id", .str scope.siteId)]).dumps

/-- The members of an envelope before its ciphertext. -/
structure Metadata where
  version : Json
  algorithm : String
  recordId : String
  scopeDigest : String
  createdAt : String
  expiresAt : String

/-- The canonical JSON of the metadata. -/
def Metadata.document (m : Metadata) : List Char :=
  (Json.obj [("algorithm", .str m.algorithm), ("created_at", .str m.createdAt),
    ("expires_at", .str m.expiresAt), ("record_id", .str m.recordId),
    ("scope_digest", .str m.scopeDigest), ("version", m.version)]).dumps

/-- The canonical JSON of the metadata with the ciphertext. -/
def Metadata.envelope (m : Metadata) (ciphertext : List UInt8) : Json :=
  .obj [("algorithm", .str m.algorithm),
    ("ciphertext", .str (String.ofList (Base64.encode ciphertext))),
    ("created_at", .str m.createdAt), ("expires_at", .str m.expiresAt),
    ("record_id", .str m.recordId), ("scope_digest", .str m.scopeDigest), ("version", m.version)]

/-- `value.astimezone(UTC)`. -/
def toUtc (value : Datetime) : Except Raise Datetime :=
  match Datetime.of? value.instant 0 with
  | some d => .ok d
  | none => .error .overflowError

/-- `_aware_utc`. -/
def awareUtc (value : Option Datetime) (name : String) : Except Raise Datetime :=
  match value with
  | some d => toUtc d
  | none => .error (.valueError s!"{name} must be timezone-aware")

/-- `value + timedelta(days=30)`. -/
def after30Days (value : Datetime) : Except Raise Datetime :=
  match value.add (30 * microsPerDay) with
  | some d => .ok d
  | none => .error .overflowError

/-- `_timestamp`. -/
def timestampText (value : Datetime) : Except Raise String :=
  match timestamp value with
  | some s => .ok (String.ofList s)
  | none => .error .overflowError

/-- `_parse_timestamp`. -/
def parseTimestamp (py : Stdlib) (value name : String) : Except Raise Datetime :=
  match py.fromisoformat (replace value.toList ['Z'] "+00:00".toList) with
  | some parsed => awareUtc parsed name
  | none => .error (.valueError s!"invalid encrypted mapping {name}")

/-! ## The vault -/

/-- `AuthenticatedCipher`; the random bytes of a seal are an argument. Its bytes in and
out stand for the texts they encode, and `none` for its `ValueError`. -/
structure AuthenticatedCipher where
  algorithm : String
  sealText (nonce : List UInt8) (plaintext associatedData : List Char) : List UInt8
  openText (ciphertext : List UInt8) (associatedData : List Char) : Option (List Char)

/-- What was sealed is opened under the same associated data. -/
def AuthenticatedCipher.Opens (cipher : AuthenticatedCipher) : Prop :=
  ∀ nonce plaintext associatedData,
    cipher.openText (cipher.sealText nonce plaintext associatedData) associatedData = some plaintext

/-- The files of an `EncryptedFileMappingVault`, by record id. -/
structure Vault where
  files : Dict String (List Char) := .empty

namespace Vault

abbrev Op := Proc Raise Vault

variable (py : Stdlib) (cipher : AuthenticatedCipher)

def referencePrefix : String := "vault://token-mappings/"

/-- `created < expiry <= created + timedelta(days=30)`. -/
def checkExpiry (created expiry : Datetime) (refusal : Raise) : Except Raise Unit := do
  unless created.instant < expiry.instant do throw refusal
  let latest ← after30Days created
  unless expiry.instant ≤ latest.instant do throw refusal

/-- `store`; an absent time is `none`. -/
def store (nonce : List UInt8) (mapping : Dict String String) (recordId : String) (scope : Scope)
    (clock : Option Datetime) (createdAt expiresAt : Option (Option Datetime)) : Op String := do
  let created ← awareUtc (createdAt.getD clock) "created_at"
  let expiry ← match expiresAt with
    | some expiry => awareUtc expiry "expires_at"
    | none => do awareUtc (← after30Days created) "expires_at"
  checkExpiry created expiry
    (.valueError "expires_at must be after created_at and within 30 days")
  let metadata : Metadata :=
    { version := .int 2
      algorithm := cipher.algorithm
      recordId
      scopeDigest := py.sha256 (scopeBytes recordId scope)
      createdAt := ← timestampText created
      expiresAt := ← timestampText expiry }
  let ciphertext := cipher.sealText nonce (mappingDocument mapping).dumps metadata.document
  unless isDigest recordId do throw (.valueError "invalid mapping record id")
  modify fun vault =>
    { vault with files := vault.files.set recordId (metadata.envelope ciphertext).dumps }
  return referencePrefix ++ recordId

/-! ## Loading -/

/-- `_record_id`. -/
def recordIdOf (reference : String) : Except Raise String :=
  if referencePrefix.toList.isPrefixOf reference.toList then
    let recordId := String.ofList (reference.toList.drop referencePrefix.toList.length)
    if isDigest recordId then .ok recordId
    else .error (.valueError "invalid mapping reference")
  else .error (.valueError "invalid mapping reference")

def invalidEnvelope : Raise := .valueError "invalid encrypted mapping envelope"

/-- `_load_envelope`. -/
def loadEnvelope (vault : Vault) (recordId : String) : Except Raise Json :=
  match vault.files.get? recordId with
  | none => .error invalidEnvelope
  | some file =>
      match Json.loads file with
      | some (.obj members) => .ok (.obj members)
      | _ => .error invalidEnvelope

/-- `value == n`, for a value that is no float. -/
def isNumber (n : ℤ) (value : Option Json) : Bool := value.any fun j => j.isInt && j.toInt = n

/-- `_authenticated_metadata`. -/
def authenticatedMetadata (envelope : Json) (recordId : String) : Except Raise Metadata := do
  unless isNumber 2 (envelope.get? "version") ∧
      envelope.get? "record_id" = some (.str recordId) do throw invalidEnvelope
  let some algorithm := (envelope.get? "algorithm").bind Json.str? | throw invalidEnvelope
  let some scopeDigest := ((envelope.get? "scope_digest").bind Json.str?).filter isDigest
    | throw invalidEnvelope
  let some createdAt := (envelope.get? "created_at").bind Json.str? | throw invalidEnvelope
  let some expiresAt := (envelope.get? "expires_at").bind Json.str? | throw invalidEnvelope
  let _ ← parseTimestamp py createdAt "created_at"
  let _ ← parseTimestamp py expiresAt "expires_at"
  return { version := (envelope.get? "version").getD .null, algorithm, recordId, scopeDigest
           createdAt, expiresAt }

/-- `_envelope_ciphertext`. -/
def envelopeCiphertext (envelope : Json) : Except Raise (List UInt8) :=
  match (envelope.get? "ciphertext").bind Json.str? with
  | some encoded =>
      match Base64.decode encoded.toList with
      | some ciphertext => .ok ciphertext
      | none => .error invalidEnvelope
  | none => .error invalidEnvelope

/-- The string members of an object. -/
def stringMembers : List (String × Json) → Option (List (String × String))
  | [] => some []
  | (key, .str value) :: ms => (stringMembers ms).map ((key, value) :: ·)
  | _ => none

/-- `_decode_mapping`. -/
def decodeMapping (plaintext : List Char) : Except Raise (Dict String String) :=
  match Json.loads plaintext with
  | some (.obj members) =>
      match stringMembers members with
      | some entries => .ok (.ofList entries)
      | none => .error (.valueError "invalid encrypted mapping record")
  | _ => .error (.valueError "invalid encrypted mapping record")

/-- The associated data an envelope was sealed under; version 1 had no metadata. -/
def associatedData (envelope : Json) (recordId : String) (scope : Scope) :
    Except Raise (List Char) := do
  if isNumber 1 (envelope.get? "version") then return scopeBytes recordId scope
  unless isNumber 2 (envelope.get? "version") do throw invalidEnvelope
  let metadata ← authenticatedMetadata py envelope recordId
  unless metadata.scopeDigest = py.sha256 (scopeBytes recordId scope) do
    throw (.permissionError "mapping reference is absent or outside scope")
  return metadata.document

/-- `load`, at a reading of the clock. -/
def load (vault : Vault) (clock : Option Datetime) (reference : String) (scope : Scope) :
    Except Raise (Dict String String) := do
  let recordId ← recordIdOf reference
  let envelope ← vault.loadEnvelope recordId
  unless envelope.get? "algorithm" = some (.str cipher.algorithm) do
    throw (.valueError "mapping cipher algorithm mismatch")
  let associatedData ← associatedData py envelope recordId scope
  let ciphertext ← envelopeCiphertext envelope
  let some plaintext := cipher.openText ciphertext associatedData
    | throw (.permissionError "mapping reference is outside scope")
  let decoded ← decodeMapping plaintext
  if isNumber 2 (envelope.get? "version") then
    let some expiresAt := (envelope.get? "expires_at").bind Json.str? | throw invalidEnvelope
    let expiry ← parseTimestamp py expiresAt "expires_at"
    let now ← awareUtc clock "clock"
    if expiry.instant ≤ now.instant then
      throw (.permissionError "mapping reference has expired")
  return decoded

end Vault

/-! ## Tokenization -/

structure TokenizationReceipt where
  receiptId : String
  scope : Scope
  tokenizerVersion : String
  mappingReference : String
  mappingDigest : String
  sourceTokenCount : ℕ
  emittedTokenCount : ℕ
  createdAt : Datetime
  expiresAt : Datetime

structure TokenizationResult where
  text : List Char
  receipt : TokenizationReceipt

/-- The arguments of a call of `tokenize`, with the random bytes it will draw. -/
structure Request where
  text : List Char
  scope : Scope
  now : Option Datetime
  phrases : List (List Char)
  expiresAt : Option (Option Datetime)
  nonce : List UInt8

namespace StableTokenizer
variable (py : Stdlib) (self : StableTokenizer)

/-- The text a record id is the digest of. -/
def recordSeed (scope : Scope) (mappingDigest : String) : List Char :=
  (Json.obj [("mapping_digest", .str mappingDigest), ("purpose", .str scope.purpose),
    ("site_id", .str scope.siteId), ("tokenizer_version", .str self.tokenizerVersion)]).dumps

/-- The two times of a call, in UTC and checked. -/
def window (r : Request) : Except Raise (Datetime × Datetime) := do
  let some now := r.now | throw (.valueError "now must be timezone-aware")
  let createdAt ← toUtc now
  let expiry ← match r.expiresAt with
    | some none => throw (.valueError "expires_at must be timezone-aware")
    | some (some expiresAt) => toUtc expiresAt
    | none => after30Days createdAt
  Vault.checkExpiry createdAt expiry
    (.valueError "expires_at must be after now and no more than 30 days later")
  return (createdAt, expiry)

/-- `tokenize`. -/
def tokenize (cipher : AuthenticatedCipher) (r : Request) : Vault.Op TokenizationResult := do
  if r.scope.siteId = "" ∨ r.scope.purpose = "" then
    throw (.valueError "site_id and purpose are required")
  else do
    let (createdAt, expiry) ← window r
    let (tokenized, mapping) := replaceDetected py self r.scope r.text r.phrases
    if containsObviousPii py tokenized then
      throw (.piiResidualError "obvious PII remains after tokenization")
    else do
      let mappingDigest := py.sha256 (mappingDocument mapping).dumps
      let recordSeed := recordSeed self r.scope mappingDigest
      let mappingReference ← Vault.store py cipher r.nonce mapping (py.sha256 recordSeed) r.scope
        none (some (some createdAt)) (some (some expiry))
      let receiptSeed := recordSeed ++ (← timestampText createdAt).toList
      let receipt : TokenizationReceipt :=
        { receiptId := "tokenization-"
            ++ String.ofList ((py.sha256 receiptSeed).toList.take 32)
          scope := r.scope
          tokenizerVersion := self.tokenizerVersion
          mappingReference
          mappingDigest
          sourceTokenCount := mapping.items.length
          emittedTokenCount := mapping.items.length
          createdAt
          expiresAt := expiry }
      return ⟨tokenized, receipt⟩

end StableTokenizer
end EsanGbos.ModelGateway
