import EsanGbos.Lib.Json
import EsanGbos.Lib.Separated
import EsanGbos.Observer.Models

/-!
# Derived identifiers

Identifiers of events, jobs and evidence are digests of texts that join the identifiers they are
derived from. The separator is a control character, which the checks of an identifier let through
inside a text, so that a field can move from one part to the next.

## Main definitions

* `stableUlid` — the identifier of a namespace and parts.
* `Message` — what the identifiers of a provider's message are derived from.
* `Shifted` — two messages whose parts join to the same text.

## Main results

* `stableUlid_eq_iff` — which parts share an identifier.
* `derived_ids_iff` — which messages share one.
-/
namespace EsanGbos.Observer
open Lib

/-! ## Digests -/

/-- `text.encode()`. -/
def encode (text : List Char) : List UInt8 := (String.ofList text).toUTF8.data.toList

theorem encode_injective : Function.Injective encode := by
  intro s t h
  have hbytes : (String.ofList s).toByteArray = (String.ofList t).toByteArray :=
    ByteArray.ext (Array.toList_inj.mp h)
  exact String.ofList_injective (String.toByteArray_inj.mp hbytes)

/-- `int.from_bytes(content)`. -/
def fromBytes (content : List UInt8) : ℕ := content.foldl (fun n b => n * 256 + b.toNat) 0

theorem fromBytes_append (content : List UInt8) (b : UInt8) :
    fromBytes (content ++ [b]) = fromBytes content * 256 + b.toNat := by
  simp [fromBytes]

theorem fromBytes_lt (content : List UInt8) : fromBytes content < 256 ^ content.length := by
  induction content using List.reverseRecOn with
  | nil => simp [fromBytes]
  | append_singleton content b ih =>
      have hb : b.toNat < 256 := b.toNat_lt
      rw [fromBytes_append, List.length_append, List.length_singleton, pow_succ]
      omega

theorem fromBytes_inj {content content' : List UInt8} (hlength : content.length = content'.length)
    (h : fromBytes content = fromBytes content') : content = content' := by
  induction content using List.reverseRecOn generalizing content' with
  | nil => exact (List.length_eq_zero_iff.mp hlength.symm).symm
  | append_singleton content b ih =>
      obtain ⟨content'', b', rfl⟩ : ∃ l c, content' = l ++ [c] := by
        have hne : content' ≠ [] := by
          rintro rfl
          simp at hlength
        exact ⟨_, _, (List.dropLast_append_getLast hne).symm⟩
      have hb : b.toNat < 256 := b.toNat_lt
      have hb' : b'.toNat < 256 := b'.toNat_lt
      rw [fromBytes_append, fromBytes_append] at h
      have hbyte : b = b' := UInt8.toNat_inj.mp (by omega)
      rw [hbyte, ih (by simpa using hlength) (by omega)]

/-- `_CROCKFORD`. -/
def crockford : List Char := "0123456789ABCDEFGHJKMNPQRSTVWXYZ".toList

/-- The loop of `stable_ulid` over the digits, the last one first. -/
def base32 : ℕ → ℕ → List Char
  | 0, _ => []
  | n + 1, value => base32 n (value / 32) ++ [crockford.getD (value % 32) '0']

theorem base32_inj {n value value' : ℕ} (hvalue : value < 32 ^ n) (hvalue' : value' < 32 ^ n)
    (h : base32 n value = base32 n value') : value = value' := by
  induction n generalizing value value' with
  | zero => omega
  | succ n ih =>
      obtain ⟨hrest, hlast⟩ := List.append_inj' h rfl
      have hdigit : ∀ a < 32, ∀ b < 32,
          crockford.getD a '0' = crockford.getD b '0' → a = b := by decide
      have hmod := hdigit _ (Nat.mod_lt value (by decide)) _ (Nat.mod_lt value' (by decide))
        (List.singleton_inj.mp hlast)
      rw [pow_succ] at hvalue hvalue'
      have hdiv := ih (Nat.div_lt_of_lt_mul (by omega)) (Nat.div_lt_of_lt_mul (by omega)) hrest
      omega

/-- The separator of the joined texts. -/
def unitSeparator : Char := '\x1f'

/-- `"\x1f".join(parts).encode()`. -/
def joined (parts : List String) : List UInt8 :=
  encode ([unitSeparator].intercalate (parts.map String.toList))

-- `hashlib.sha256(material).digest()`
variable (digest : List UInt8 → List UInt8)

/-- `stable_ulid`. -/
def stableUlid (namespace_ : String) (parts : List String) : String :=
  String.ofList (base32 26 (fromBytes ((digest (joined (namespace_ :: parts))).take 16)))

/-- `hashlib.sha256(material).hexdigest()`. -/
def hexdigest (material : List UInt8) : String :=
  String.ofList ((digest material).flatMap fun b =>
    [Nat.digitChar (b.toNat / 16), Nat.digitChar (b.toNat % 16)])

variable {digest}

/-- An identifier determines the part of the digest it writes. -/
theorem take_digest_of_stableUlid (hlength : ∀ material, (digest material).length = 32)
    {namespace_ namespace' : String} {parts parts' : List String}
    (h : stableUlid digest namespace_ parts = stableUlid digest namespace' parts') :
    (digest (joined (namespace_ :: parts))).take 16 =
      (digest (joined (namespace' :: parts'))).take 16 := by
  have htake : ∀ material, ((digest material).take 16).length = 16 := by
    intro material
    rw [List.length_take, hlength]
    rfl
  have hlt : ∀ material, fromBytes ((digest material).take 16) < 32 ^ 26 := by
    intro material
    have hbytes := fromBytes_lt ((digest material).take 16)
    rw [htake] at hbytes
    exact lt_of_lt_of_le hbytes (by decide)
  refine fromBytes_inj (by rw [htake, htake]) ?_
  exact base32_inj (hlt _) (hlt _) (String.ofList_injective h)

theorem hexdigest_inj {material material' : List UInt8}
    (h : hexdigest digest material = hexdigest digest material') :
    digest material = digest material' := by
  have hdigit : ∀ a < 16, ∀ b < 16, Nat.digitChar a = Nat.digitChar b → a = b := by decide
  have hbytes : ∀ bytes bytes' : List UInt8,
      (bytes.flatMap fun b => [Nat.digitChar (b.toNat / 16), Nat.digitChar (b.toNat % 16)]) =
        (bytes'.flatMap fun b => [Nat.digitChar (b.toNat / 16), Nat.digitChar (b.toNat % 16)]) →
      bytes = bytes' := by
    intro bytes
    induction bytes with
    | nil =>
        intro bytes' heq
        cases bytes' with
        | nil => rfl
        | cons b' bytes' => cases heq
    | cons b bytes ih =>
        intro bytes' heq
        cases bytes' with
        | nil => cases heq
        | cons b' bytes' =>
            simp only [List.flatMap_cons, List.cons_append, List.nil_append, List.cons.injEq] at heq
            obtain ⟨hhigh, hlow, hrest⟩ := heq
            have hb : b.toNat < 256 := b.toNat_lt
            have hb' : b'.toNat < 256 := b'.toNat_lt
            have hdiv := hdigit _ (by omega) _ (by omega) hhigh
            have hmod := hdigit _ (by omega) _ (by omega) hlow
            rw [ih bytes' hrest, UInt8.toNat_inj.mp (show b.toNat = b'.toNat by omega)]
  exact hbytes _ _ (String.ofList_injective h)

/-! ## Parts -/

/-- A part that holds no separator. -/
def Plain (part : String) : Prop := unitSeparator ∉ part.toList

instance : DecidablePred Plain := fun part =>
  inferInstanceAs (Decidable (unitSeparator ∉ part.toList))

theorem joined_cons_inj {part part' : String} {parts parts' : List String} (hpart : Plain part)
    (hpart' : Plain part') (hne : parts ≠ []) (hne' : parts' ≠ []) :
    joined (part :: parts) = joined (part' :: parts') ↔
      part = part' ∧ joined parts = joined parts' := by
  obtain ⟨p, ps, rfl⟩ := List.exists_cons_of_ne_nil hne
  obtain ⟨q, qs, rfl⟩ := List.exists_cons_of_ne_nil hne'
  unfold joined
  rw [encode_injective.eq_iff, encode_injective.eq_iff]
  simp only [List.map_cons, List.intercalate_cons_cons, List.append_assoc, List.singleton_append]
  rw [append_cons_inj hpart hpart', String.toList_inj]

/-- Two parts join to the text of two others. -/
theorem joined_pair {a b a' b' : String} : joined [a, b] = joined [a', b'] ↔
    (a = a' ∧ b = b') ∨
      (∃ x, a.toList = a'.toList ++ unitSeparator :: x ∧
        b'.toList = x ++ unitSeparator :: b.toList) ∨
      ∃ x, a'.toList = a.toList ++ unitSeparator :: x ∧
        b.toList = x ++ unitSeparator :: b'.toList := by
  unfold joined
  rw [encode_injective.eq_iff]
  simp only [List.map_cons, List.map_nil, List.intercalate_cons_cons, List.intercalate_singleton,
    List.append_assoc, List.singleton_append]
  rw [append_cons_eq_iff, String.toList_inj, String.toList_inj]

theorem joined_singleton {a a' : String} : joined [a] = joined [a'] ↔ a = a' := by
  unfold joined
  rw [encode_injective.eq_iff]
  simp [String.toList_inj]

/-! ## Messages -/

/-- A provider's message: its connector and the identifier that the provider gave it, which is a
`provider_event_id`, a `delivery_id` or a nonce. -/
structure Message where
  scope : TenantScope
  key : ConnectorKey
  identifier : String
  identifier_ok : isIdentifier 512 identifier = true

/-- What the identifiers of a message are derived from. -/
def Message.parts (m : Message) : List String :=
  [m.scope.siteId, m.key.connector.text, m.key.instanceId, m.identifier]

theorem Message.parts_ne_nil (m : Message) : m.parts ≠ [] := List.cons_ne_nil _ _

section Derived
variable (digest) (m : Message)

/-- The `event_id` of `_normalized_candidate`. -/
def eventId : String := stableUlid digest "normalized-observation-event" m.parts

/-- An element of the `evidence_ids` of `_normalized_candidate`. -/
def evidenceId (index : ℕ) (reference : String) : String :=
  stableUlid digest "normalized-evidence"
    [m.scope.siteId, eventId digest m, String.ofList (Json.intText index), reference]

/-- The `outbox_id` of `_normalized_candidate`. -/
def outboxId : String :=
  stableUlid digest "normalized-context-outbox" [m.scope.siteId, eventId digest m]

/-- The `identity_digest` of `accept` and the `job_identity` of `accept_authenticated`. -/
def identityDigest : String := hexdigest digest (joined m.parts)

/-- The `job_id` of `DurableDeliveryInbox.accept`. -/
def deliveryJobId : String := stableUlid digest "delivery-job" [identityDigest digest m, "0"]

/-- The `idempotency_key` of `DurableDeliveryInbox.accept`. -/
def deliveryIdempotencyKey : String := "delivery:" ++ identityDigest digest m

/-- The `job_id` of `accept_authenticated`. -/
def authenticatedJobId : String :=
  stableUlid digest "authenticated-delivery-job" [identityDigest digest m]

/-- The texts that are hashed for a message, apart from those of its evidence. -/
def Message.materials : List (List UInt8) :=
  [joined ("normalized-observation-event" :: m.parts),
    joined ["normalized-context-outbox", m.scope.siteId, eventId digest m], joined m.parts,
    joined ["delivery-job", identityDigest digest m, "0"],
    joined ["authenticated-delivery-job", identityDigest digest m]]

/-- The text that is hashed for an element of the evidence. -/
def Message.evidenceMaterial (index : ℕ) (reference : String) : List UInt8 :=
  joined ["normalized-evidence", m.scope.siteId, eventId digest m,
    String.ofList (Json.intText index), reference]

end Derived

/-- A field has moved from the instance of one message to the identifier of the other. -/
def Moved (m m' : Message) : Prop :=
  ∃ x, m.key.instanceId.toList = m'.key.instanceId.toList ++ unitSeparator :: x ∧
    m'.identifier.toList = x ++ unitSeparator :: m.identifier.toList

/-- Two different messages of one site and connector whose parts join to the same text. -/
def Shifted (m m' : Message) : Prop :=
  m.scope.siteId = m'.scope.siteId ∧ m.key.connector = m'.key.connector ∧
    (Moved m m' ∨ Moved m' m)

theorem plain_siteId (scope : TenantScope) : Plain scope.siteId := by
  have hsite := scope.siteId_ok
  unfold isSiteId at hsite
  intro hmem
  cases htext : scope.siteId.toList with
  | nil => rw [htext] at hmem; cases hmem
  | cons c cs =>
      rw [htext] at hsite hmem
      simp only [Bool.and_eq_true, List.all_eq_true] at hsite
      rcases List.mem_cons.mp hmem with rfl | hmem
      · exact absurd hsite.1.1 (by decide)
      · exact absurd (hsite.2 _ hmem) (by decide)

theorem plain_connector (connector : ConnectorName) : Plain connector.text := by
  cases connector <;> decide

theorem plain_stableUlid (namespace_ : String) (parts : List String) :
    Plain (stableUlid digest namespace_ parts) := by
  have hdigit : ∀ n < 32, crockford.getD n '0' ≠ unitSeparator := by decide
  have hbase : ∀ n value, unitSeparator ∉ base32 n value := by
    intro n
    induction n with
    | zero => intro value; exact List.not_mem_nil
    | succ n ih =>
        intro value hmem
        rcases List.mem_append.mp hmem with hmem | hmem
        · exact ih _ hmem
        · exact hdigit _ (Nat.mod_lt _ (by decide)) (List.mem_singleton.mp hmem).symm
  unfold Plain stableUlid
  rw [String.toList_ofList]
  exact hbase _ _

theorem plain_hexdigest (material : List UInt8) : Plain (hexdigest digest material) := by
  have hdigit : ∀ n < 16, Nat.digitChar n ≠ unitSeparator := by decide
  unfold Plain hexdigest
  rw [String.toList_ofList]
  intro hmem
  obtain ⟨b, -, hb⟩ := List.mem_flatMap.mp hmem
  have hlt : b.toNat < 256 := b.toNat_lt
  simp only [List.mem_cons, List.not_mem_nil, or_false] at hb
  rcases hb with hb | hb
  · exact hdigit _ (by omega) hb.symm
  · exact hdigit _ (by omega) hb.symm

theorem plain_eventId (m : Message) : Plain (eventId digest m) := plain_stableUlid _ _

theorem plain_identityDigest (m : Message) : Plain (identityDigest digest m) := plain_hexdigest _

theorem plain_intText (i : ℤ) : Plain (String.ofList (Json.intText i)) := by
  unfold Plain
  rw [String.toList_ofList]
  intro hmem
  have hnumber := Json.isNumberChar_of_mem_intText hmem
  revert hnumber
  decide

theorem intText_injective : Function.Injective fun i : ℤ => String.ofList (Json.intText i) := by
  intro i j h
  have hread := Json.readInt_intText i
  rw [String.ofList_injective h, Json.readInt_intText] at hread
  exact (Option.some.inj hread).symm

/-- The parts of two messages join to one text exactly if they agree or a field has moved. -/
theorem joined_parts_iff (m m' : Message) :
    joined m.parts = joined m'.parts ↔ m.parts = m'.parts ∨ Shifted m m' := by
  unfold Message.parts Shifted Moved
  rw [joined_cons_inj (plain_siteId _) (plain_siteId _) (List.cons_ne_nil _ _)
    (List.cons_ne_nil _ _), joined_cons_inj (plain_connector _) (plain_connector _)
    (List.cons_ne_nil _ _) (List.cons_ne_nil _ _), joined_pair,
    ConnectorName.text_injective.eq_iff]
  simp only [List.cons.injEq, and_true, ConnectorName.text_injective.eq_iff]
  rw [← and_or_left, ← and_or_left]

theorem not_parts_of_shifted {m m' : Message} (h : Shifted m m') : m.parts ≠ m'.parts := by
  intro heq
  simp only [Message.parts, List.cons.injEq, and_true] at heq
  obtain ⟨-, -, ⟨x, hx, -⟩ | ⟨x, hx, -⟩⟩ := h
  · rw [heq.2.2.1] at hx
    have hlength := congrArg List.length hx
    simp at hlength
  · rw [heq.2.2.1] at hx
    have hlength := congrArg List.length hx
    simp at hlength

/-! ## Identifiers that are shared -/

section Sharing
variable {hashed : Set (List UInt8)}

/-- Without a collision of the truncated digests, an identifier determines the text it was derived
from. -/
theorem joined_of_stableUlid (hlength : ∀ material, (digest material).length = 32)
    (hinj : hashed.InjOn fun material => (digest material).take 16)
    {namespace_ namespace' : String} {parts parts' : List String}
    (hmem : joined (namespace_ :: parts) ∈ hashed) (hmem' : joined (namespace' :: parts') ∈ hashed)
    (h : stableUlid digest namespace_ parts = stableUlid digest namespace' parts') :
    joined (namespace_ :: parts) = joined (namespace' :: parts') :=
  hinj hmem hmem' (take_digest_of_stableUlid hlength h)

/-- An identifier determines the fields of the parts, and nothing else about them. -/
theorem stableUlid_eq_iff (hlength : ∀ material, (digest material).length = 32)
    (hinj : hashed.InjOn fun material => (digest material).take 16)
    {namespace_ namespace' : String} {parts parts' : List String}
    (hmem : joined (namespace_ :: parts) ∈ hashed)
    (hmem' : joined (namespace' :: parts') ∈ hashed) :
    stableUlid digest namespace_ parts = stableUlid digest namespace' parts' ↔
      fields unitSeparator ((namespace_ :: parts).map String.toList) =
        fields unitSeparator ((namespace' :: parts').map String.toList) := by
  rw [← intercalate_eq_iff (by simp) (by simp)]
  constructor
  · intro h
    exact encode_injective (joined_of_stableUlid hlength hinj hmem hmem' h)
  · intro h
    have hjoined : joined (namespace_ :: parts) = joined (namespace' :: parts') :=
      congrArg encode h
    rw [stableUlid, stableUlid, hjoined]

/-- Without a collision a hexadecimal digest determines its text. -/
theorem material_of_hexdigest (hinj : hashed.InjOn fun material => (digest material).take 16)
    {material material' : List UInt8} (hmem : material ∈ hashed) (hmem' : material' ∈ hashed)
    (h : hexdigest digest material = hexdigest digest material') : material = material' := by
  refine hinj hmem hmem' ?_
  dsimp only
  rw [hexdigest_inj h]

variable {m m' : Message}

/-- An identifier that agrees exactly if the joined parts do tells messages apart unless a field
has moved. -/
theorem distinguishes_iff {α : Type} {a a' : α} (h : a = a' ↔ joined m.parts = joined m'.parts) :
    (a = a' → m.parts = m'.parts) ↔ ¬ Shifted m m' := by
  rw [h, joined_parts_iff]
  constructor
  · intro hsame hshifted
    exact not_parts_of_shifted hshifted (hsame (.inr hshifted))
  · rintro hnot (hparts | hshifted)
    · exact hparts
    · exact absurd hshifted hnot

theorem joined_parts_siteId (h : joined m.parts = joined m'.parts) :
    m.scope.siteId = m'.scope.siteId :=
  ((joined_cons_inj (plain_siteId _) (plain_siteId _) (List.cons_ne_nil _ _)
    (List.cons_ne_nil _ _)).mp h).1

section Derivation
variable (hlength : ∀ material, (digest material).length = 32)
  (hinj : hashed.InjOn fun material => (digest material).take 16)
  (hm : ∀ material ∈ m.materials digest, material ∈ hashed)
  (hm' : ∀ material ∈ m'.materials digest, material ∈ hashed)
include hlength hinj hm hm'

theorem eventId_iff :
    eventId digest m = eventId digest m' ↔ joined m.parts = joined m'.parts := by
  have hplain : Plain "normalized-observation-event" := by decide
  have hcons : joined ("normalized-observation-event" :: m.parts) =
      joined ("normalized-observation-event" :: m'.parts) ↔ joined m.parts = joined m'.parts := by
    rw [joined_cons_inj hplain hplain m.parts_ne_nil m'.parts_ne_nil]
    exact ⟨And.right, fun h => ⟨rfl, h⟩⟩
  constructor
  · intro h
    exact hcons.mp (joined_of_stableUlid hlength hinj (hm _ (by simp [Message.materials]))
      (hm' _ (by simp [Message.materials])) h)
  · intro h
    rw [eventId, eventId, stableUlid, stableUlid, hcons.mpr h]

theorem outboxId_iff :
    outboxId digest m = outboxId digest m' ↔ joined m.parts = joined m'.parts := by
  have hplain : Plain "normalized-context-outbox" := by decide
  rw [← eventId_iff hlength hinj hm hm']
  constructor
  · intro h
    have hjoined := joined_of_stableUlid hlength hinj (hm _ (by simp [Message.materials]))
      (hm' _ (by simp [Message.materials])) h
    rw [joined_cons_inj hplain hplain (List.cons_ne_nil _ _) (List.cons_ne_nil _ _),
      joined_cons_inj (plain_siteId _) (plain_siteId _) (List.cons_ne_nil _ _)
        (List.cons_ne_nil _ _), joined_singleton] at hjoined
    exact hjoined.2.2
  · intro h
    have hparts := (eventId_iff hlength hinj hm hm').mp h
    rw [outboxId, outboxId, h, joined_parts_siteId hparts]

omit hlength in
theorem identityDigest_iff :
    identityDigest digest m = identityDigest digest m' ↔ joined m.parts = joined m'.parts := by
  constructor
  · intro h
    exact material_of_hexdigest hinj (hm _ (by simp [Message.materials]))
      (hm' _ (by simp [Message.materials])) h
  · intro h
    rw [identityDigest, identityDigest, h]

theorem deliveryJobId_iff :
    deliveryJobId digest m = deliveryJobId digest m' ↔ joined m.parts = joined m'.parts := by
  have hplain : Plain "delivery-job" := by decide
  rw [← identityDigest_iff hinj hm hm']
  constructor
  · intro h
    have hjoined := joined_of_stableUlid hlength hinj (hm _ (by simp [Message.materials]))
      (hm' _ (by simp [Message.materials])) h
    rw [joined_cons_inj hplain hplain (List.cons_ne_nil _ _) (List.cons_ne_nil _ _),
      joined_cons_inj (plain_identityDigest _) (plain_identityDigest _) (List.cons_ne_nil _ _)
        (List.cons_ne_nil _ _)] at hjoined
    exact hjoined.2.1
  · intro h
    rw [deliveryJobId, deliveryJobId, h]

omit hlength in
theorem deliveryIdempotencyKey_iff : deliveryIdempotencyKey digest m =
    deliveryIdempotencyKey digest m' ↔ joined m.parts = joined m'.parts := by
  rw [← identityDigest_iff hinj hm hm']
  constructor
  · intro h
    have htext := congrArg String.toList h
    rw [deliveryIdempotencyKey, deliveryIdempotencyKey, String.toList_append,
      String.toList_append] at htext
    exact String.toList_inj.mp (List.append_cancel_left htext)
  · intro h
    rw [deliveryIdempotencyKey, deliveryIdempotencyKey, h]

theorem authenticatedJobId_iff : authenticatedJobId digest m = authenticatedJobId digest m' ↔
    joined m.parts = joined m'.parts := by
  have hplain : Plain "authenticated-delivery-job" := by decide
  rw [← identityDigest_iff hinj hm hm']
  constructor
  · intro h
    have hjoined := joined_of_stableUlid hlength hinj (hm _ (by simp [Message.materials]))
      (hm' _ (by simp [Message.materials])) h
    rw [joined_cons_inj hplain hplain (List.cons_ne_nil _ _) (List.cons_ne_nil _ _),
      joined_singleton] at hjoined
    exact hjoined.2
  · intro h
    rw [authenticatedJobId, authenticatedJobId, h]

/-- The reference comes last, so that a separator in it moves nothing. -/
theorem evidenceId_iff {index index' : ℕ} {reference reference' : String}
    (hmem : m.evidenceMaterial digest index reference ∈ hashed)
    (hmem' : m'.evidenceMaterial digest index' reference' ∈ hashed) :
    evidenceId digest m index reference = evidenceId digest m' index' reference' ↔
      joined m.parts = joined m'.parts ∧ index = index' ∧ reference = reference' := by
  have hplain : Plain "normalized-evidence" := by decide
  rw [← eventId_iff hlength hinj hm hm']
  constructor
  · intro h
    have hjoined := joined_of_stableUlid hlength hinj hmem hmem' h
    rw [joined_cons_inj hplain hplain (List.cons_ne_nil _ _) (List.cons_ne_nil _ _),
      joined_cons_inj (plain_siteId _) (plain_siteId _) (List.cons_ne_nil _ _)
        (List.cons_ne_nil _ _),
      joined_cons_inj (plain_eventId _) (plain_eventId _) (List.cons_ne_nil _ _)
        (List.cons_ne_nil _ _),
      joined_cons_inj (plain_intText _) (plain_intText _) (List.cons_ne_nil _ _)
        (List.cons_ne_nil _ _), joined_singleton] at hjoined
    obtain ⟨-, -, hevent, hindex, hreference⟩ := hjoined
    exact ⟨hevent, Int.ofNat.inj (intText_injective hindex), hreference⟩
  · rintro ⟨h, rfl, rfl⟩
    have hparts := (eventId_iff hlength hinj hm hm').mp h
    rw [evidenceId, evidenceId, h, joined_parts_siteId hparts]

end Derivation

/-- Where the truncated digests of the hashed texts do not collide, two messages share an event,
outbox, job or evidence identifier without being the same exactly if a field has moved between
their instances and their own identifiers. -/
theorem derived_ids_iff (hlength : ∀ material, (digest material).length = 32)
    (hinj : hashed.InjOn fun material => (digest material).take 16) (m m' : Message)
    (hm : ∀ material ∈ m.materials digest, material ∈ hashed)
    (hm' : ∀ material ∈ m'.materials digest, material ∈ hashed) :
    ((eventId digest m = eventId digest m' → m.parts = m'.parts) ↔ ¬ Shifted m m') ∧
      ((outboxId digest m = outboxId digest m' → m.parts = m'.parts) ↔ ¬ Shifted m m') ∧
      ((deliveryJobId digest m = deliveryJobId digest m' → m.parts = m'.parts) ↔
        ¬ Shifted m m') ∧
      ((deliveryIdempotencyKey digest m = deliveryIdempotencyKey digest m' →
        m.parts = m'.parts) ↔ ¬ Shifted m m') ∧
      ((authenticatedJobId digest m = authenticatedJobId digest m' → m.parts = m'.parts) ↔
        ¬ Shifted m m') ∧
      (∀ index index' reference reference',
        m.evidenceMaterial digest index reference ∈ hashed →
        m'.evidenceMaterial digest index' reference' ∈ hashed →
        ((evidenceId digest m index reference = evidenceId digest m' index' reference' →
            m.parts = m'.parts ∧ index = index' ∧ reference = reference') ↔
          ¬ (Shifted m m' ∧ index = index' ∧ reference = reference'))) ∧
      ∀ namespace_ namespace' parts parts', joined (namespace_ :: parts) ∈ hashed →
        joined (namespace' :: parts') ∈ hashed →
        (stableUlid digest namespace_ parts = stableUlid digest namespace' parts' ↔
          fields unitSeparator ((namespace_ :: parts).map String.toList) =
            fields unitSeparator ((namespace' :: parts').map String.toList)) := by
  refine ⟨distinguishes_iff (eventId_iff hlength hinj hm hm'),
    distinguishes_iff (outboxId_iff hlength hinj hm hm'),
    distinguishes_iff (deliveryJobId_iff hlength hinj hm hm'),
    distinguishes_iff (deliveryIdempotencyKey_iff hinj hm hm'),
    distinguishes_iff (authenticatedJobId_iff hlength hinj hm hm'), ?_, ?_⟩
  · intro index index' reference reference' hmem hmem'
    rw [evidenceId_iff hlength hinj hm hm' hmem hmem', joined_parts_iff]
    constructor
    · rintro hsame ⟨hshifted, hindex, hreference⟩
      exact not_parts_of_shifted hshifted (hsame ⟨.inr hshifted, hindex, hreference⟩).1
    · rintro hnot ⟨hparts | hshifted, hindex, hreference⟩
      · exact ⟨hparts, hindex, hreference⟩
      · exact absurd ⟨hshifted, hindex, hreference⟩ hnot
  · intro namespace_ namespace' parts parts' hmem hmem'
    exact stableUlid_eq_iff hlength hinj hmem hmem'

end Sharing

/-! ## Messages of a mailbox -/

theorem sales_ok : isIdentifier 256 "sales" = true := by decide

theorem shifted_ok : isIdentifier 256 "sales\x1f1" = true := by decide

theorem plain_ok : isIdentifier 512 "2" = true := by decide

theorem separated_ok : isIdentifier 512 "1\x1f2" = true := by decide

/-- A message whose identifier holds a separator. -/
def separated : Message := ⟨acme, ⟨.email, "sales", sales_ok⟩, "1\x1f2", separated_ok⟩

/-- A message of an instance whose name holds one. -/
def shifted : Message := ⟨acme, ⟨.email, "sales\x1f1", shifted_ok⟩, "2", plain_ok⟩

def plain : Message := ⟨acme, ⟨.email, "sales", sales_ok⟩, "2", plain_ok⟩

/-- What SHA-256 gives for the texts of the three messages. -/
def digests : List (List UInt8 × ℕ) :=
  [(joined ["normalized-observation-event", "acme", "email", "sales", "1\x1f2"],
      0x1e6c49d9ad677e04e81a15a85c276bedcb29040e85f09634c8bd0de73c81b2bf),
    (joined ["normalized-context-outbox", "acme", "0YDH4XKBB7FR2EG6GNN1E2ETZD"],
      0x16c910337f343a343409d8015d429345cbb5763cd9a2869e2aac512cd9178c1a),
    (joined ["acme", "email", "sales", "1\x1f2"],
      0x2766e3cf1dadc0c2d9bcf749536c69fb56c24d0403361d2059121c5caa05c02a),
    (joined ["delivery-job",
        "2766e3cf1dadc0c2d9bcf749536c69fb56c24d0403361d2059121c5caa05c02a", "0"],
      0xa77c6a2c1917ecea87783dbfdb66cf524b743c5bd6dfd905c285947f64918819),
    (joined ["authenticated-delivery-job",
        "2766e3cf1dadc0c2d9bcf749536c69fb56c24d0403361d2059121c5caa05c02a"],
      0x23021ddc0c9aa03e556108dafe8be230490983b6479fca1e750bcff805dc61e7),
    (joined ["normalized-observation-event", "acme", "email", "sales", "2"],
      0xb87815a62bcf56a2a0d204d6fd713953a303d0dff48bd619fb007ba666e1a6f7),
    (joined ["normalized-context-outbox", "acme", "5RF0ATCAYFATHA1MG4TVYQ2EAK"],
      0x3c87a883825aa5147f1d3edc07af9373bf772d7080f802eca3bebd7c296d2e18),
    (joined ["acme", "email", "sales", "2"],
      0x9109af5b8c9f5796b314ca114f3ded0cd1687f84a0e882c2f2393bed17c0c2da),
    (joined ["delivery-job",
        "9109af5b8c9f5796b314ca114f3ded0cd1687f84a0e882c2f2393bed17c0c2da", "0"],
      0x9292b692b0367bf9ce609494680e9a2b2ba97ba59d73a9ebd5e6d9f6d3d7a482),
    (joined ["authenticated-delivery-job",
        "9109af5b8c9f5796b314ca114f3ded0cd1687f84a0e882c2f2393bed17c0c2da"],
      0x1441b6157654c87ecc952aed68537c12ca77a7ffc180e55f2ae4318deace355c)]

/-- The digests of the texts in the table. -/
def tabulated (material : List UInt8) : List UInt8 :=
  (List.range 32).map fun i =>
    UInt8.ofNat ((digests.lookup material).getD 0 / 256 ^ (31 - i))

theorem length_tabulated (material : List UInt8) : (tabulated material).length = 32 := by
  rw [tabulated, List.length_map, List.length_range]

/-- The texts in the table. -/
def inTable : Set (List UInt8) := {material | material ∈ digests.map Prod.fst}

theorem tabulated_injOn : inTable.InjOn fun material => (tabulated material).take 16 := by
  have htable : ∀ material ∈ digests.map Prod.fst, ∀ material' ∈ digests.map Prod.fst,
      (tabulated material).take 16 = (tabulated material').take 16 → material = material' := by
    decide +kernel
  intro material hmem material' hmem' heq
  exact htable material hmem material' hmem' heq

theorem separated_inTable : ∀ material ∈ separated.materials tabulated, material ∈ inTable := by
  show ∀ material ∈ separated.materials tabulated, material ∈ digests.map Prod.fst
  decide +kernel

theorem shifted_inTable : ∀ material ∈ shifted.materials tabulated, material ∈ inTable := by
  show ∀ material ∈ shifted.materials tabulated, material ∈ digests.map Prod.fst
  decide +kernel

theorem plain_inTable : ∀ material ∈ plain.materials tabulated, material ∈ inTable := by
  show ∀ material ∈ plain.materials tabulated, material ∈ digests.map Prod.fst
  decide +kernel

theorem not_shifted_separated_plain : ¬ Shifted separated plain := by
  rintro ⟨-, -, ⟨x, hx, -⟩ | ⟨x, hx, -⟩⟩
  · have hlength := congrArg List.length hx
    simp [separated, plain] at hlength
  · have hlength := congrArg List.length hx
    simp [separated, plain] at hlength

/-- Messages that are not shifted get events of their own. -/
theorem separated_plain_events : eventId tabulated separated ≠ eventId tabulated plain := by
  intro h
  have hparts := (derived_ids_iff length_tabulated tabulated_injOn separated plain
    separated_inTable plain_inTable).1.mpr not_shifted_separated_plain h
  exact absurd hparts (by decide)

/-- Two messages share an event, its outbox row and the jobs of their deliveries, although no two
of the texts that are hashed have the same digest. -/
theorem shifted_shares : (inTable.InjOn fun material => (tabulated material).take 16) ∧
    (∀ material ∈ shifted.materials tabulated, material ∈ inTable) ∧
    (∀ material ∈ separated.materials tabulated, material ∈ inTable) ∧
    shifted.parts ≠ separated.parts ∧
    eventId tabulated shifted = eventId tabulated separated ∧
    outboxId tabulated shifted = outboxId tabulated separated ∧
    deliveryJobId tabulated shifted = deliveryJobId tabulated separated ∧
    deliveryIdempotencyKey tabulated shifted = deliveryIdempotencyKey tabulated separated ∧
    authenticatedJobId tabulated shifted = authenticatedJobId tabulated separated := by
  have hjoined : joined shifted.parts = joined separated.parts := by decide +kernel
  have hm := shifted_inTable
  have hm' := separated_inTable
  refine ⟨tabulated_injOn, hm, hm', by decide, ?_, ?_, ?_, ?_, ?_⟩
  · exact (eventId_iff length_tabulated tabulated_injOn hm hm').mpr hjoined
  · exact (outboxId_iff length_tabulated tabulated_injOn hm hm').mpr hjoined
  · exact (deliveryJobId_iff length_tabulated tabulated_injOn hm hm').mpr hjoined
  · exact (deliveryIdempotencyKey_iff tabulated_injOn hm hm').mpr hjoined
  · exact (authenticatedJobId_iff length_tabulated tabulated_injOn hm hm').mpr hjoined

end EsanGbos.Observer
