import EsanGbos.ModelGateway.Tokenization

/-!
# What the vault gives back

A record that `store` wrote is loaded again under its scope until it expires, whatever
else the vault holds. A call of `tokenize` that returns has written one such record.

## Main definitions

* `Vault.Stored` — a record of the vault, with what was stored in it.
* `Vault.load_stored` — what `load` answers for it.
* `StableTokenizer.tokenize_ok` — what a call that returns did.
-/
namespace EsanGbos.ModelGateway
open Lib

/-! ## Times -/

/-- A datetime in UTC. -/
def IsUtc (d : Datetime) : Prop := d.utcoffset = 0

theorem toUtc_isUtc {d u : Datetime} (h : toUtc d = .ok u) : IsUtc u ∧ u.instant = d.instant := by
  unfold toUtc at h
  split at h
  next hof => exact Except.ok.inj h ▸ (Datetime.of?_eq_some hof).symm
  next => cases h

theorem toUtc_of_isUtc {d : Datetime} (h : IsUtc d) : toUtc d = .ok d := by
  have hof : Datetime.of? d.instant 0 = some d := by rw [← h]; exact d.of?_self
  rw [toUtc, hof]

theorem after30Days_isUtc {d u : Datetime} (hd : IsUtc d) (h : after30Days d = .ok u) :
    IsUtc u := by
  unfold after30Days at h
  split at h
  next hadd => exact (Except.ok.inj h ▸ (Datetime.of?_eq_some hadd).2).trans hd
  next => cases h

/-- `_timestamp` of a datetime in UTC. -/
def utcText (d : Datetime) : String := String.ofList (replace d.isoformat "+00:00".toList ['Z'])

theorem timestampText_utc {d : Datetime} (h : IsUtc d) : timestampText d = .ok (utcText d) := by
  rw [timestampText, timestamp_utc h]
  rfl

theorem parseTimestamp_utcText {py : Stdlib} (hiso : py.ReadsIsoformat) {d : Datetime}
    (h : IsUtc d) (name : String) : parseTimestamp py (utcText d) name = .ok d := by
  rw [parseTimestamp, utcText, String.toList_ofList, replace_timestamp h (timestamp_utc h), hiso]
  exact toUtc_of_isUtc h

/-- A reading of the clock that has a time in UTC. -/
theorem awareUtc_ok {clock : Datetime} (h0 : 0 ≤ clock.instant) (hlt : clock.instant < maxWall)
    (name : String) : ∃ now, awareUtc (some clock) name = .ok now ∧ now.instant = clock.instant := by
  have hoffset : -microsPerDay < 0 ∧ (0 : ℤ) < microsPerDay := by decide
  refine ⟨⟨clock.instant, 0, hoffset, by omega⟩, ?_, rfl⟩
  rw [awareUtc, toUtc, Datetime.of?, dif_pos ⟨hoffset, by omega⟩]

namespace Vault
variable {py : Stdlib} {cipher : AuthenticatedCipher}

/-! ## Records -/

/-- The metadata of a record. -/
def metadataOf (py : Stdlib) (cipher : AuthenticatedCipher) (recordId : String) (scope : Scope)
    (created expiry : Datetime) : Metadata :=
  { version := .int 2
    algorithm := cipher.algorithm
    recordId
    scopeDigest := py.sha256 (scopeBytes recordId scope)
    createdAt := utcText created
    expiresAt := utcText expiry }

/-- The file of a record. -/
def fileOf (py : Stdlib) (cipher : AuthenticatedCipher) (nonce : List UInt8)
    (mapping : Dict String String) (recordId : String) (scope : Scope)
    (created expiry : Datetime) : List Char :=
  let metadata := metadataOf py cipher recordId scope created expiry
  (metadata.envelope (cipher.sealText nonce (mappingDocument mapping).dumps
    metadata.document)).dumps

/-- The vault holds this mapping under this record id, until `expiry`. -/
structure Stored (py : Stdlib) (cipher : AuthenticatedCipher) (vault : Vault) (recordId : String)
    (scope : Scope) (mapping : Dict String String) (expiry : Datetime) : Prop where
  isDigest : isDigest recordId = true
  utc : IsUtc expiry
  file : ∃ nonce created, IsUtc created ∧
    vault.files.get? recordId = some (fileOf py cipher nonce mapping recordId scope created expiry)

theorem checkExpiry_ok {created expiry : Datetime} {refusal : Raise}
    (h : checkExpiry created expiry refusal = .ok ()) : created.instant < expiry.instant := by
  unfold checkExpiry at h
  by_contra hlt
  simp [hlt, bind, Except.bind, throw, throwThe, MonadExceptOf.throw] at h

/-- The refusal does not matter to a window that is accepted. -/
theorem checkExpiry_ok_of {created expiry : Datetime} {refusal : Raise} (refusal' : Raise)
    (h : checkExpiry created expiry refusal = .ok ()) :
    checkExpiry created expiry refusal' = .ok () := by
  unfold checkExpiry at *
  split at h
  next hlt =>
    obtain ⟨latest, hlatest, h⟩ := Proc.bind_eq_ok.mp h
    split at h
    next hle => rw [if_pos hlt, hlatest]; exact if_pos hle
    next => cases h
  next => cases h

/-- A `store` that returns has written the record, and nothing else. -/
theorem store_ok {nonce : List UInt8} {mapping : Dict String String} {recordId : String}
    {scope : Scope} {clock : Option Datetime} {created expiry : Datetime} {vault vault' : Vault}
    {reference : String} (hcreated : IsUtc created) (hexpiry : IsUtc expiry)
    (h : (store py cipher nonce mapping recordId scope clock (some (some created))
      (some (some expiry))).run vault = (.ok reference, vault')) :
    reference = referencePrefix ++ recordId ∧ isDigest recordId = true ∧
      vault' = ⟨vault.files.set recordId
        (fileOf py cipher nonce mapping recordId scope created expiry)⟩ := by
  simp only [store, Option.getD_some, awareUtc, toUtc_of_isUtc hcreated, toUtc_of_isUtc hexpiry,
    timestampText_utc hcreated, timestampText_utc hexpiry, Proc.run_lift_bind] at h
  split at h
  next =>
    rw [Proc.run_ite] at h
    split at h
    next hdigest =>
      obtain ⟨hreference, rfl⟩ := Prod.mk.inj h
      exact ⟨(Except.ok.inj hreference).symm, hdigest, rfl⟩
    next => cases h
  next => cases h

/-- A `store` of a digest under an accepted window returns. -/
theorem store_returns (cipher : AuthenticatedCipher) (nonce : List UInt8)
    (mapping : Dict String String) (scope : Scope) {recordId : String} {created expiry : Datetime}
    {refusal : Raise} (hcreated : IsUtc created) (hexpiry : IsUtc expiry)
    (hcheck : checkExpiry created expiry refusal = .ok ())
    (hdigest : EsanGbos.isDigest recordId = true) (vault : Vault) :
    ∃ reference vault', (store py cipher nonce mapping recordId scope none (some (some created))
      (some (some expiry))).run vault = (.ok reference, vault') := by
  simp only [store, Option.getD_some, awareUtc, toUtc_of_isUtc hcreated, toUtc_of_isUtc hexpiry,
    timestampText_utc hcreated, timestampText_utc hexpiry, Proc.run_lift_bind,
    checkExpiry_ok_of _ hcheck, if_pos hdigest]
  exact ⟨_, _, rfl⟩

/-! ## Loading a record -/

theorem recordIdOf_reference {recordId : String} (h : EsanGbos.isDigest recordId = true) :
    recordIdOf (referencePrefix ++ recordId) = .ok recordId := by
  have hlist : (referencePrefix ++ recordId).toList
      = referencePrefix.toList ++ recordId.toList := String.toList_append
  rw [recordIdOf, hlist, if_pos (by simp [List.isPrefixOf_iff_prefix]), List.drop_left,
    String.ofList_toList, if_pos h]

theorem stringMembers_map (l : List (String × String)) :
    stringMembers (l.map fun e => (e.1, .str e.2)) = some l := by
  induction l with
  | nil => rfl
  | cons e l ih => simp [stringMembers, ih]

/-- A mapping whose entries are in key order. -/
def reread (mapping : Dict String String) : Dict String String :=
  .ofList (mapping.items.insertionSort fun a b => a.1 ≤ b.1)

theorem get?_reread (mapping : Dict String String) (k : String) :
    (reread mapping).get? k = mapping.get? k :=
  Dict.get?_ofList_of_perm (List.perm_insertionSort _ _) k

/-- A stored mapping is read back as its entries in key order. -/
theorem decodeMapping_dumps (mapping : Dict String String) :
    decodeMapping (mappingDocument mapping).dumps = .ok (reread mapping) := by
  rw [decodeMapping, Json.loads_dumps, mappingDocument]
  simp only [stringMembers_map]
  rfl

/-- The members of an envelope. -/
theorem envelope_get? (m : Metadata) (ciphertext : List UInt8) :
    (m.envelope ciphertext).get? "algorithm" = some (.str m.algorithm) ∧
    (m.envelope ciphertext).get? "ciphertext"
      = some (.str (String.ofList (Base64.encode ciphertext))) ∧
    (m.envelope ciphertext).get? "created_at" = some (.str m.createdAt) ∧
    (m.envelope ciphertext).get? "expires_at" = some (.str m.expiresAt) ∧
    (m.envelope ciphertext).get? "record_id" = some (.str m.recordId) ∧
    (m.envelope ciphertext).get? "scope_digest" = some (.str m.scopeDigest) ∧
    (m.envelope ciphertext).get? "version" = some m.version := by
  refine ⟨?_, ?_, ?_, ?_, ?_, ?_, ?_⟩ <;> simp [Metadata.envelope, Json.get?]

theorem envelopeCiphertext_envelope (m : Metadata) (ciphertext : List UInt8) :
    envelopeCiphertext (m.envelope ciphertext) = .ok ciphertext := by
  obtain ⟨-, hciphertext, -⟩ := envelope_get? m ciphertext
  simp only [envelopeCiphertext, hciphertext, Option.bind_some, Json.str?, String.toList_ofList,
    Base64.decode_encode]

/-- The metadata of a record are found authentic again. -/
theorem authenticatedMetadata_envelope (hiso : py.ReadsIsoformat) (hhex : py.HexDigests)
    {recordId : String} {scope : Scope} {created expiry : Datetime} (hcreated : IsUtc created)
    (hexpiry : IsUtc expiry) (ciphertext : List UInt8) :
    authenticatedMetadata py ((metadataOf py cipher recordId scope created expiry).envelope
      ciphertext) recordId = .ok (metadataOf py cipher recordId scope created expiry) := by
  obtain ⟨halgorithm, -, hcreatedAt, hexpiresAt, hrecord, hscope, hversion⟩ :=
    envelope_get? (metadataOf py cipher recordId scope created expiry) ciphertext
  have hnumber : isNumber 2 (some (.int 2)) = true := by decide
  have hdigest : Option.filter EsanGbos.isDigest
      (some (metadataOf py cipher recordId scope created expiry).scopeDigest)
      = some (metadataOf py cipher recordId scope created expiry).scopeDigest := by
    have hhex : EsanGbos.isDigest (metadataOf py cipher recordId scope created expiry).scopeDigest
        = true := hhex _
    rw [Option.filter_some, if_pos hhex]
  have hparse₁ : parseTimestamp py (metadataOf py cipher recordId scope created expiry).createdAt
      "created_at" = .ok created := parseTimestamp_utcText hiso hcreated _
  have hparse₂ : parseTimestamp py (metadataOf py cipher recordId scope created expiry).expiresAt
      "expires_at" = .ok expiry := parseTimestamp_utcText hiso hexpiry _
  simp only [authenticatedMetadata, halgorithm, hcreatedAt, hexpiresAt, hrecord, hscope, hversion,
    Option.bind_some, Json.str?, hdigest, hparse₁, hparse₂]
  rw [if_pos ⟨hnumber, rfl⟩]
  rfl

/-- What a stored record answers. -/
theorem load_stored {vault : Vault} {recordId : String} {scope : Scope}
    {mapping : Dict String String} {expiry clock : Datetime} (hcipher : cipher.Opens)
    (hiso : py.ReadsIsoformat) (hhex : py.HexDigests)
    (h : Stored py cipher vault recordId scope mapping expiry)
    (h0 : 0 ≤ clock.instant) (hlt : clock.instant < maxWall) :
    load py cipher vault (some clock) (referencePrefix ++ recordId) scope =
      if expiry.instant ≤ clock.instant then
        .error (.permissionError "mapping reference has expired")
      else .ok (reread mapping) := by
  obtain ⟨hdigest, hutc, nonce, created, hcreated, hfile⟩ := h
  obtain ⟨now, hnow, hinstant⟩ := awareUtc_ok h0 hlt "clock"
  let metadata := metadataOf py cipher recordId scope created expiry
  let ciphertext := cipher.sealText nonce (mappingDocument mapping).dumps metadata.document
  have henvelope : loadEnvelope vault recordId = .ok (metadata.envelope ciphertext) := by
    rw [loadEnvelope, hfile]
    simp only [fileOf, Json.loads_dumps]
    rfl
  obtain ⟨halgorithm, -, -, hexpiresAt, -, -, hversion⟩ := envelope_get? metadata ciphertext
  have hone : isNumber 1 (some metadata.version) = false := rfl
  have htwo : isNumber 2 (some metadata.version) = true := rfl
  have hdata : associatedData py (metadata.envelope ciphertext) recordId scope
      = .ok metadata.document := by
    have hauthentic : authenticatedMetadata py (metadata.envelope ciphertext) recordId
        = .ok metadata := authenticatedMetadata_envelope hiso hhex hcreated hutc ciphertext
    have hscope : metadata.scopeDigest = py.sha256 (scopeBytes recordId scope) := rfl
    simp only [associatedData, hversion, hone, htwo, hauthentic, bind, Except.bind, if_pos hscope]
    rfl
  have hparse : parseTimestamp py metadata.expiresAt "expires_at" = .ok expiry :=
    parseTimestamp_utcText hiso hutc _
  simp only [load, recordIdOf_reference hdigest, henvelope, halgorithm, hdata,
    envelopeCiphertext_envelope, bind, Except.bind]
  rw [if_pos (show some (Json.str metadata.algorithm) = some (Json.str cipher.algorithm) from rfl)]
  simp only [pure, Except.pure, ciphertext, hcipher nonce, decodeMapping_dumps, hversion, htwo,
    hexpiresAt, Option.bind_some, Json.str?, hparse, hnow, hinstant, if_true]
  split <;> rfl

/-- Until it expires, a stored record answers its mapping. -/
theorem load_live {vault : Vault} {recordId : String} {scope : Scope}
    {mapping : Dict String String} {expiry clock : Datetime} (hcipher : cipher.Opens)
    (hiso : py.ReadsIsoformat) (hhex : py.HexDigests)
    (h : Stored py cipher vault recordId scope mapping expiry)
    (h0 : 0 ≤ clock.instant) (hlt : clock.instant < expiry.instant) :
    load py cipher vault (some clock) (referencePrefix ++ recordId) scope
      = .ok (reread mapping) := by
  have hwall := expiry.wall_mem.2
  rw [h.utc, add_zero] at hwall
  rw [load_stored hcipher hiso hhex h h0 (hlt.trans hwall), if_neg (by omega)]

end Vault

/-! ## A cipher that hides nothing -/

/-- Three bytes for each character. -/
def charBytes (c : Char) : List UInt8 :=
  [.ofNat (c.toNat / 65536), .ofNat (c.toNat / 256), .ofNat c.toNat]

def ofCharBytes : List UInt8 → List Char
  | a :: b :: c :: bytes => Char.ofNat (a.toNat * 65536 + b.toNat * 256 + c.toNat) :: ofCharBytes bytes
  | _ => []

theorem ofCharBytes_flatMap (s : List Char) : ofCharBytes (s.flatMap charBytes) = s := by
  induction s with
  | nil => rfl
  | cons c s ih =>
      have hlt : c.toNat < 1114112 := by
        have := c.valid
        simp only [Char.toNat, UInt32.isValidChar, Nat.isValidChar] at *
        omega
      have hc : c.toNat / 65536 % 256 * 65536 + c.toNat / 256 % 256 * 256 + c.toNat % 256
          = c.toNat := by omega
      rw [List.flatMap_cons, charBytes, List.cons_append, List.cons_append, List.cons_append,
        List.nil_append, ofCharBytes, ih]
      simp only [UInt8.toNat_ofNat', hc, Char.ofNat_toNat]

/-- It seals by putting the associated data before the text. -/
def AuthenticatedCipher.plain : AuthenticatedCipher where
  algorithm := "plain"
  sealText _ plaintext associatedData := (associatedData ++ plaintext).flatMap charBytes
  openText ciphertext associatedData :=
    let text := ofCharBytes ciphertext
    if associatedData.isPrefixOf text then some (text.drop associatedData.length) else none

theorem AuthenticatedCipher.plain_opens : AuthenticatedCipher.plain.Opens := by
  intro nonce plaintext associatedData
  simp only [plain, ofCharBytes_flatMap]
  rw [if_pos (by simp [List.isPrefixOf_iff_prefix]), List.drop_left]

/-! ## A call of the tokenizer -/

namespace StableTokenizer
variable (py : Stdlib) (self : StableTokenizer)

/-- The mapping of a call. -/
def mappingOf (r : Request) : Dict String String :=
  (replaceDetected py self r.scope r.text r.phrases).2

/-- The record a call writes. -/
def recordOf (r : Request) : String :=
  py.sha256 (recordSeed self r.scope (py.sha256 (mappingDocument (mappingOf py self r)).dumps))

/-- What a call checks before it writes. -/
structure Admitted (py : Stdlib) (tokenizer : StableTokenizer) (r : Request) : Prop where
  scope : ¬(r.scope.siteId = "" ∨ r.scope.purpose = "")
  window : ∃ times, window r = .ok times
  clean : containsObviousPii py (replaceDetected py tokenizer r.scope r.text r.phrases).1 = false

/-- What a call that returns has done. -/
structure Returned (tokenizer : StableTokenizer) (cipher : AuthenticatedCipher) (r : Request)
    (vault vault' : Vault) (result : TokenizationResult) : Prop where
  admitted : Admitted py tokenizer r
  window : window r = .ok (result.receipt.createdAt, result.receipt.expiresAt)
  created : IsUtc result.receipt.createdAt
  expires : IsUtc result.receipt.expiresAt
  text : result.text = (replaceDetected py tokenizer r.scope r.text r.phrases).1
  scope : result.receipt.scope = r.scope
  digest : result.receipt.mappingDigest
    = py.sha256 (mappingDocument (mappingOf py tokenizer r)).dumps
  reference : result.receipt.mappingReference = Vault.referencePrefix ++ recordOf py tokenizer r
  isDigest : isDigest (recordOf py tokenizer r) = true
  vault : vault' = ⟨vault.files.set (recordOf py tokenizer r)
    (Vault.fileOf py cipher r.nonce (mappingOf py tokenizer r) (recordOf py tokenizer r) r.scope
      result.receipt.createdAt result.receipt.expiresAt)⟩

variable {py self} {cipher : AuthenticatedCipher} {r : Request}

/-- The times of a call are in UTC, in order and accepted. -/
theorem window_ok {createdAt expiry : Datetime} (h : window r = .ok (createdAt, expiry)) :
    IsUtc createdAt ∧ IsUtc expiry ∧ createdAt.instant < expiry.instant ∧
      ∃ refusal, Vault.checkExpiry createdAt expiry refusal = .ok () := by
  have hchecked : ∀ {created : Datetime} {x : Except Raise Datetime}, IsUtc created →
      (∀ u, x = .ok u → IsUtc u) →
      (x >>= fun expiry => do
        Vault.checkExpiry created expiry
          (.valueError "expires_at must be after now and no more than 30 days later")
        pure (created, expiry)) = .ok (createdAt, expiry) →
      IsUtc createdAt ∧ IsUtc expiry ∧ createdAt.instant < expiry.instant ∧
        ∃ refusal, Vault.checkExpiry createdAt expiry refusal = .ok () := by
    intro created x hcreated hx hok
    obtain ⟨u, hu, hok⟩ := Proc.bind_eq_ok.mp hok
    obtain ⟨_, hcheck, hok⟩ := Proc.bind_eq_ok.mp hok
    obtain ⟨rfl, rfl⟩ := Prod.mk.inj (Except.ok.inj hok)
    exact ⟨hcreated, hx _ hu, Vault.checkExpiry_ok hcheck, _, hcheck⟩
  unfold window at h
  split at h
  next now hnow =>
    obtain ⟨created, hcreated, h⟩ := Proc.bind_eq_ok.mp h
    have hutc := (toUtc_isUtc hcreated).1
    split at h
    next => cases h
    next => exact hchecked hutc (fun _ hu => (toUtc_isUtc hu).1) h
    next => exact hchecked hutc (fun _ hu => after30Days_isUtc hutc hu) h
  next => cases h

theorem tokenize_ok {vault vault' : Vault} {result : TokenizationResult}
    (h : (tokenize py self cipher r).run vault = (.ok result, vault')) :
    Returned py self cipher r vault vault' result := by
  unfold tokenize at h
  rw [Proc.run_ite] at h
  split at h
  next => cases h
  next hscope =>
    rw [Proc.run_lift_bind] at h
    split at h
    next times hwindow =>
      obtain ⟨createdAt, expiry⟩ := times
      obtain ⟨hcreated, hexpiry, hlt, -⟩ := window_ok hwindow
      simp only [Proc.run_ite] at h
      split at h
      next => cases h
      next hclean =>
        rw [Proc.run_bind] at h
        split at h
        next reference vault₁ hstore =>
          obtain ⟨rfl, hdigest, rfl⟩ := Vault.store_ok hcreated hexpiry hstore
          rw [timestampText_utc hcreated, Proc.run_lift_bind] at h
          obtain ⟨hresult, rfl⟩ := Prod.mk.inj h
          obtain rfl := Except.ok.inj hresult
          exact ⟨⟨hscope, ⟨_, hwindow⟩, Bool.eq_false_iff.mpr hclean⟩, hwindow, hcreated, hexpiry, rfl,
            rfl, rfl, rfl, hdigest, rfl⟩
        next => cases h
    next => cases h

/-- A call that passes its checks returns, whatever the vault holds. -/
theorem tokenize_of_admitted (cipher : AuthenticatedCipher) (hhex : py.HexDigests)
    (h : Admitted py self r) (vault : Vault) :
    ∃ result vault', (tokenize py self cipher r).run vault = (.ok result, vault') := by
  obtain ⟨hscope, ⟨⟨createdAt, expiry⟩, hwindow⟩, hclean⟩ := h
  obtain ⟨hcreated, hexpiry, -, refusal, hcheck⟩ := window_ok hwindow
  obtain ⟨reference, vault', hstore⟩ := Vault.store_returns cipher r.nonce (mappingOf py self r)
    r.scope hcreated hexpiry hcheck (hhex _ : isDigest (recordOf py self r) = true) vault
  rw [tokenize, Proc.run_ite, if_neg hscope, Proc.run_lift_bind, hwindow]
  simp only [Proc.run_ite, hclean]
  rw [if_neg Bool.false_ne_true, timestampText_utc hcreated]
  exact ⟨_, _, Proc.run_bind_ok hstore⟩

/-- A call that does not raises before it writes. -/
theorem tokenize_of_not_admitted (cipher : AuthenticatedCipher) (h : ¬Admitted py self r)
    (vault : Vault) :
    ∃ e, (tokenize py self cipher r).run vault = (.error e, vault) := by
  rw [tokenize, Proc.run_ite]
  by_cases hscope : r.scope.siteId = "" ∨ r.scope.purpose = ""
  · exact ⟨_, if_pos hscope⟩
  · rw [if_neg hscope, Proc.run_lift_bind]
    cases hwindow : window r with
    | error e => exact ⟨e, rfl⟩
    | ok times =>
        simp only [Proc.run_ite]
        cases hclean : containsObviousPii py
            (replaceDetected py self r.scope r.text r.phrases).1 with
        | false => exact absurd ⟨hscope, ⟨times, hwindow⟩, hclean⟩ h
        | true => exact ⟨_, rfl⟩

/-- The record of the call is in the vault it leaves. -/
theorem Returned.stored {vault vault' : Vault} {result : TokenizationResult}
    (h : Returned py self cipher r vault vault' result) :
    vault'.Stored py cipher (recordOf py self r) r.scope (mappingOf py self r)
      result.receipt.expiresAt where
  isDigest := h.isDigest
  utc := h.expires
  file := ⟨r.nonce, result.receipt.createdAt, h.created, by rw [h.vault, Dict.get?_set_self]⟩

/-- Until it expires, the mapping of the call is loaded under its scope. -/
theorem Returned.load {vault vault' : Vault} {result : TokenizationResult}
    (h : Returned py self cipher r vault vault' result) (hcipher : cipher.Opens)
    (hiso : py.ReadsIsoformat) (hhex : py.HexDigests) {clock : Datetime}
    (h0 : 0 ≤ clock.instant) (hlt : clock.instant < result.receipt.expiresAt.instant) :
    vault'.load py cipher (some clock) result.receipt.mappingReference result.receipt.scope
      = .ok (Vault.reread (mappingOf py self r)) := by
  rw [h.reference, h.scope, Vault.load_live hcipher hiso hhex h.stored h0 hlt]

/-- The default tokenizer under a key of zeros. -/
def sample : StableTokenizer := ⟨List.replicate 32 0, "stable-hmac-tokenizer-v1", by decide⟩

/-- A request on the first day of 2026. -/
def sampleRequest (text : String) (phrases : List String) : Request where
  text := text.toList
  scope := ⟨"s", "p"⟩
  now := some newYear
  phrases := phrases.map String.toList
  expiresAt := none
  nonce := []

/-- One phrase in two spellings, under one token. -/
def acmeRequest : Request := sampleRequest "ACME acme" ["acme"]

noncomputable def acme : Stdlib := .sample
  [(44, "a76fbc9a00d56d1a457d9b2791ba1477bb8a72da2eaca05fae98a05ce03b7b45"),
    (160, "73447c9363cf1fd7100bfab82a933cd467d14c9ee2f138ba9021cd36acb97df0"),
    (180, "7a8bd4968c7a7280cb85191f452f0dcf50dfd57386c6f331f57960b48d409722"),
    (108, "b469ebccd23ef4405ee3d6033bc7cacc9f867c11b5caebc9a67d858dc209f674")]
  [(40, "63b05dff21796f389b5b91dd5556de80078659ee26762891555ec7d6e192f222")]

theorem acme_readsIsoformat : acme.ReadsIsoformat := Stdlib.sample_readsIsoformat _ _

theorem acme_hexDigests : acme.HexDigests := Stdlib.sample_hexDigests _ (by decide +kernel)

end StableTokenizer
end EsanGbos.ModelGateway
