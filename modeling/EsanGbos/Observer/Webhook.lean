import EsanGbos.Lib.Firsts
import EsanGbos.Lib.Json
import EsanGbos.Lib.Proc
import EsanGbos.Observer.Items

/-!
# Decoding a webhook delivery

`WhatsAppCloudWebhookDecoder` reads the messages of all entries and changes of a delivery and leaves
the repetitions of a message out. A message with media makes a task for a media worker. The reader
of JSON is a parameter, and so is the value of a number that is no integer: a value that is infinite
has none.

## Main definitions

* `Decoder.decodeDelivery` — the decoder.
* `messagesOf` — the messages of a delivery, in the order of the document.

## Main results

* `Decoder.decodeDelivery_exact` — the items and tasks of a delivery that is accepted.
-/
namespace EsanGbos.Observer
open Lib

namespace WhatsApp

inductive DecodeError where
  | quarantine (reason : String)
  | valueError (message : String)
  | overflowError
deriving DecidableEq, Repr

abbrev Decode (α : Type) := Except DecodeError α

/-- What the reader of JSON raises. -/
inductive LoadsError where
  | duplicateJsonKey
  | invalidJson
  | valueError (message : String)

structure MediaDownloadTask where
  providerEventId : String
  mediaId : String
  mediaType : String
  sha256 : Option String
  retryKey : String
deriving DecidableEq

/-- The payload of a message; its `kind` is always `whatsapp_message`. -/
structure Payload where
  message : Json
  rawContacts : List Json
  runtimeMetadata : Json
  mediaDownloadTask : Option MediaDownloadTask

structure RuntimeMetadata where
  statuses : List Json
  providerErrors : List Json
  providerMetadata : List Json

structure DecodedDelivery where
  items : List (ConnectorItem Payload)
  runtimeMetadata : RuntimeMetadata
  mediaDownloadTasks : List MediaDownloadTask
  rawContacts : List Json

structure Decoder where
  maxBodyBytes : ℕ
  maxEntries : ℕ
  maxChanges : ℕ
  maxMessages : ℕ
  maxRecords : ℕ
  maxDepth : ℕ
  maxNodes : ℕ
  maxStringBytes : ℕ
  positive : ∀ bound ∈ [maxBodyBytes, maxEntries, maxChanges, maxMessages, maxRecords, maxDepth,
    maxNodes, maxStringBytes], 1 ≤ bound

/-! ## Keys and types -/

def rootKeys : List String := ["object", "entry"]
def entryKeys : List String := ["id", "changes"]
def changeKeys : List String := ["field", "value"]

def valueKeys : List String :=
  ["messaging_product", "metadata", "contacts", "messages", "statuses", "errors"]

def metadataKeys : List String := ["display_phone_number", "phone_number_id"]
def contactKeys : List String := ["profile", "wa_id"]
def profileKeys : List String := ["name"]

def statusKeys : List String :=
  ["id", "status", "timestamp", "recipient_id", "conversation", "pricing", "errors",
    "biz_opaque_callback_data"]

def messageCommonKeys : List String :=
  ["from", "id", "timestamp", "type", "context", "identity", "referral", "errors"]

def mediaTypes : List String := ["image", "audio", "video", "document", "sticker"]

def nonMediaTypes : List String :=
  ["button", "contacts", "interactive", "location", "order", "reaction", "system", "text",
    "unknown"]

def messageTypes : List String := nonMediaTypes ++ mediaTypes
def interactiveTypes : List String := ["button_reply", "list_reply", "nfm_reply"]

def mediaKeys : List String :=
  ["id", "mime_type", "sha256", "caption", "filename", "voice", "animated"]

/-! ## Checks of a value -/

/-- `_quarantine`. -/
def quarantine {α : Type} (reason : String) : Decode α := .error (.quarantine reason)

/-- `value.get(name)`, which is `None` for a missing member. -/
def member (value : Json) (name : String) : Json := (value.get? name).getD .null

/-- `value.get(name, [])`. -/
def memberOrEmpty (value : Json) (name : String) : Json := (value.get? name).getD (.arr [])

/-- `_require_mapping`. -/
def requireMapping (value : Json) (reason : String) : Decode Json :=
  if value.isObj then .ok value else quarantine reason

/-- `_require_list`. -/
def requireList (value : Json) (reason : String) (maximum : ℕ) : Decode (List Json) :=
  match value with
  | .arr xs =>
      if xs.length ≤ maximum then .ok xs
      else quarantine (if reason = "invalid_messages" then "too_many_messages" else reason)
  | _ => quarantine reason

/-- `_require_keys`, of a mapping. -/
def requireKeys (value : Json) (allowed : List String) (reason : String) : Decode Unit :=
  match value with
  | .obj ms => if ms.all (·.1 ∈ allowed) then .ok () else quarantine reason
  | _ => quarantine reason

/-- `_IDENTIFIER.fullmatch`: no character is a control character or a blank. -/
def isIdentifierText (s : String) : Bool :=
  1 ≤ s.length && s.length ≤ 512 && s.toList.all fun c => 0x20 < c.toNat && c.toNat ≠ 0x7f

/-- `_require_identifier`. -/
def requireIdentifier (value : Json) (reason : String) : Decode String :=
  match value with
  | .str s => if isIdentifierText s then .ok s else quarantine reason
  | _ => quarantine reason

/-- `_require_text`. -/
def requireText (value : Json) (reason : String) : Decode String :=
  match value with
  | .str s => if s = "" ∨ '\x00' ∈ s.toList then quarantine reason else .ok s
  | _ => quarantine reason

/-- `_SHA256.fullmatch`. -/
def isSha256 (s : String) : Bool :=
  s.length = 64 && s.toList.all fun c => c.isDigit || "abcdefABCDEF".toList.contains c

section Decoding
variable (loads : List UInt8 → Except LoadsError Json)
  (float : {s : List Char // isReal s} → Option ℚ)

/-- `_require_number`; an integer from 2 ** 1024 on, rounded, has no `float`. -/
def requireNumber (value : Json) (reason : String) : Decode ℚ :=
  match value with
  | .int i => if i.natAbs < 2 ^ 1024 - 2 ^ 970 then .ok i else .error .overflowError
  | .real lexeme =>
      match float lexeme with
      | some q => .ok q
      | none => quarantine reason
  | _ => quarantine reason

/-- `_parse_timestamp`: seconds since the first day of 1970. -/
def parseTimestamp (value : Json) : Decode Datetime :=
  match value with
  | .str s =>
      if 1 ≤ s.length ∧ s.length ≤ 10 ∧ s.toList.all Char.isDigit then
        match Datetime.of? (62135596800000000 + seconds (Nat.ofDigitChars 10 s.toList 0)) 0 with
        | some time => .ok time
        | none => quarantine "invalid_timestamp"
      else quarantine "invalid_timestamp"
  | _ => quarantine "invalid_timestamp"

/-! ## Reading a body -/

namespace Decoder
variable (decoder : Decoder)

/-- The loop of `_validate_tree`, over a stack of values and depths and the nodes still allowed. -/
def validateNodes : ℕ → List (Json × ℕ) → Decode Unit
  | _, [] => .ok ()
  | 0, _ :: _ => quarantine "payload_too_complex"
  | remaining + 1, (value, depth) :: stack =>
      if decoder.maxDepth < depth then quarantine "payload_too_deep"
      else match value with
        | .str s =>
            if decoder.maxStringBytes < s.utf8ByteSize then quarantine "string_too_large"
            else validateNodes remaining stack
        | .obj ms =>
            validateNodes remaining ((ms.map fun m => (m.2, depth + 1)).reverse ++ stack)
        | .arr xs =>
            validateNodes remaining ((xs.map fun x => (x, depth + 1)).reverse ++ stack)
        | .real lexeme =>
            if (float lexeme).isNone then quarantine "invalid_json_number"
            else validateNodes remaining stack
        | .null | .bool _ | .int _ => validateNodes remaining stack

/-- `_parse`. -/
def parse (exactBytes : List UInt8) : Decode Json := do
  if decoder.maxBodyBytes < exactBytes.length then quarantine "payload_too_large"
  let value ← match loads exactBytes with
    | .ok value => .ok value
    | .error .duplicateJsonKey => quarantine "duplicate_json_key"
    | .error .invalidJson => quarantine "invalid_json"
    | .error (.valueError message) => .error (.valueError message)
  decoder.validateNodes float decoder.maxNodes [(value, 1)]
  requireMapping value "invalid_root"

/-! ## Checks of the parts -/

/-- `_validate_metadata`. -/
def validateMetadata (value : Json) : Decode Json := do
  let metadata ← requireMapping value "invalid_metadata"
  requireKeys metadata metadataKeys "invalid_metadata"
  let _ ← requireIdentifier (member metadata "phone_number_id") "invalid_metadata"
  if member metadata "display_phone_number" ≠ .null then
    let _ ← requireIdentifier (member metadata "display_phone_number") "invalid_metadata"
  return metadata

/-- A contact of `_validate_contacts`. -/
def validateContact (value : Json) : Decode Json := do
  let contact ← requireMapping value "invalid_contact"
  requireKeys contact contactKeys "invalid_contact"
  let _ ← requireIdentifier (member contact "wa_id") "invalid_contact"
  let profile ← requireMapping (member contact "profile") "invalid_contact"
  requireKeys profile profileKeys "invalid_contact"
  let _ ← requireText (member profile "name") "invalid_contact"
  return contact

/-- `_validate_contacts`. -/
def validateContacts (value : Json) : Decode (List Json) := do
  (← requireList value "invalid_contacts" decoder.maxRecords).mapM validateContact

/-- A status of `_validate_statuses`. -/
def validateStatus (value : Json) : Decode Json := do
  let status ← requireMapping value "invalid_status"
  requireKeys status statusKeys "invalid_status"
  let _ ← requireIdentifier (member status "id") "invalid_status"
  let _ ← requireIdentifier (member status "status") "invalid_status"
  let _ ← parseTimestamp (member status "timestamp")
  if member status "recipient_id" ≠ .null then
    let _ ← requireIdentifier (member status "recipient_id") "invalid_status"
  return status

/-- `_validate_statuses`. -/
def validateStatuses (value : Json) : Decode (List Json) := do
  (← requireList value "invalid_statuses" decoder.maxRecords).mapM validateStatus

/-- A text message. -/
def validateText (message : Json) : Decode Unit := do
  let content ← requireMapping (member message "text") "invalid_text_message"
  requireKeys content ["body"] "invalid_text_message"
  if (member content "body").str?.isNone then quarantine "invalid_text_message"

/-- A message with media, of one of the five types. -/
def validateMedia (message : Json) (messageType : String) : Decode Unit := do
  let content ← requireMapping (member message messageType) "invalid_media_message"
  requireKeys content mediaKeys "invalid_media_message"
  let _ ← requireIdentifier (member content "id") "invalid_media_message"
  let _ ← requireIdentifier (member content "mime_type") "invalid_media_message"
  let digest := member content "sha256"
  if digest ≠ .null ∧ digest.str?.any isSha256 = false then quarantine "invalid_media_message"

def validateButton (message : Json) : Decode Unit := do
  let content ← requireMapping (member message "button") "invalid_button_message"
  requireKeys content ["payload", "text"] "invalid_button_message"
  let _ ← requireText (member content "payload") "invalid_button_message"
  let _ ← requireText (member content "text") "invalid_button_message"

/-- `not value`, of a mapping. -/
def isEmptyMapping (value : Json) : Bool :=
  match value with
  | .obj [] => true
  | _ => false

def validateInteractive (message : Json) : Decode Unit := do
  let content ← requireMapping (member message "interactive") "invalid_interactive_message"
  requireKeys content ("type" :: interactiveTypes) "invalid_interactive_message"
  match member content "type" with
  | .str interactiveType =>
      if interactiveType ∉ interactiveTypes then quarantine "invalid_interactive_message"
      let reply ← requireMapping (member content interactiveType) "invalid_interactive_message"
      if isEmptyMapping reply then quarantine "invalid_interactive_message"
  | _ => quarantine "invalid_interactive_message"

def validateLocation (message : Json) : Decode Unit := do
  let content ← requireMapping (member message "location") "invalid_location_message"
  requireKeys content ["latitude", "longitude", "name", "address"] "invalid_location_message"
  let latitude ← requireNumber float (member content "latitude") "invalid_location_message"
  let longitude ← requireNumber float (member content "longitude") "invalid_location_message"
  if ¬(-90 ≤ latitude ∧ latitude ≤ 90) ∨ ¬(-180 ≤ longitude ∧ longitude ≤ 180) then
    quarantine "invalid_location_message"
  for name in ["name", "address"] do
    if member content name ≠ .null then
      let _ ← requireText (member content name) "invalid_location_message"

/-- A list of mappings that is not empty and holds none that is. -/
def requireMappings (values : List Json) (reason : String) : Decode Unit := do
  if values = [] then quarantine reason
  for value in values do
    if isEmptyMapping (← requireMapping value reason) then quarantine reason

def validateSharedContacts (message : Json) : Decode Unit := do
  let contacts ← requireList (member message "contacts") "invalid_contacts_message"
    decoder.maxRecords
  requireMappings contacts "invalid_contacts_message"

def validateReaction (message : Json) : Decode Unit := do
  let content ← requireMapping (member message "reaction") "invalid_reaction_message"
  requireKeys content ["message_id", "emoji"] "invalid_reaction_message"
  let _ ← requireIdentifier (member content "message_id") "invalid_reaction_message"
  if (member content "emoji").str?.isNone then quarantine "invalid_reaction_message"

def validateOrder (message : Json) : Decode Unit := do
  let content ← requireMapping (member message "order") "invalid_order_message"
  requireKeys content ["catalog_id", "text", "product_items"] "invalid_order_message"
  let _ ← requireIdentifier (member content "catalog_id") "invalid_order_message"
  if member content "text" ≠ .null then
    let _ ← requireText (member content "text") "invalid_order_message"
  let productItems ← requireList (member content "product_items") "invalid_order_message"
    decoder.maxRecords
  requireMappings productItems "invalid_order_message"

def validateSystem (message : Json) : Decode Unit := do
  let content ← requireMapping (member message "system") "invalid_system_message"
  let _ ← requireIdentifier (member content "type") "invalid_system_message"

def validateUnknown (message : Json) : Decode Unit := do
  let errors ← requireList (member message "errors") "invalid_unknown_message" decoder.maxRecords
  if errors = [] then quarantine "invalid_unknown_message"

/-- The check of the part that the type of a message names. -/
def validateContent (message : Json) (messageType : String) : Decode Unit :=
  if messageType = "text" then validateText message
  else if messageType ∈ mediaTypes then validateMedia message messageType
  else if messageType = "button" then validateButton message
  else if messageType = "interactive" then validateInteractive message
  else if messageType = "location" then validateLocation float message
  else if messageType = "contacts" then decoder.validateSharedContacts message
  else if messageType = "reaction" then validateReaction message
  else if messageType = "order" then decoder.validateOrder message
  else if messageType = "system" then validateSystem message
  else decoder.validateUnknown message

/-- The type of a message that is read. -/
def messageTypeOf (message : Json) : Option String :=
  (member message "type").str?.filter (· ∈ messageTypes)

/-- `_validate_message`. -/
def validateMessage (value : Json) : Decode Json := do
  let message ← requireMapping value "invalid_message"
  match messageTypeOf message with
  | none => quarantine "unsupported_message_type"
  | some messageType =>
      requireKeys message (messageType :: messageCommonKeys) "invalid_message"
      let _ ← requireIdentifier (member message "id") "invalid_message_id"
      if member message "from" ≠ .null then
        let _ ← requireIdentifier (member message "from") "invalid_message"
      let _ ← parseTimestamp (member message "timestamp")
      decoder.validateContent float message messageType
      return message

/-- `_media_task`. -/
def mediaTask (message : Json) (wamid : String) : Decode (Option MediaDownloadTask) :=
  match (member message "type").str? with
  | none => .ok none
  | some messageType =>
      if messageType ∉ mediaTypes then .ok none
      else do
        let media ← requireMapping (member message messageType) "invalid_media_message"
        let mediaId ← requireIdentifier (member media "id") "invalid_media_message"
        let mediaType ← requireIdentifier (member media "mime_type") "invalid_media_message"
        return some ⟨wamid, mediaId, mediaType, (member media "sha256").str?,
          s!"whatsapp-media:{mediaId}"⟩

/-! ## The loops -/

/-- What the loops have collected. -/
structure Progress where
  items : List (ConnectorItem Payload) := []
  mediaTasks : List MediaDownloadTask := []
  statuses : List Json := []
  providerErrors : List Json := []
  providerMetadata : List Json := []
  rawContacts : List Json := []
  seenWamids : List String := []
  messageCount : ℕ := 0

/-- One message. -/
def readMessage (contacts : List Json) (metadata : Json) (p : Progress) (messageValue : Json) :
    Decode Progress := do
  let message ← decoder.validateMessage float messageValue
  let wamid ← requireIdentifier (member message "id") "invalid_message_id"
  if wamid ∈ p.seenWamids then return p
  let occurredAt ← parseTimestamp (member message "timestamp")
  let task ← mediaTask message wamid
  let item : ConnectorItem Payload := ⟨wamid, occurredAt, wamid, ⟨message, contacts, metadata, task⟩⟩
  match item.refusal with
  | some refusal => .error (.valueError refusal)
  | none => return { p with
      items := p.items ++ [item]
      mediaTasks := p.mediaTasks ++ task.toList
      seenWamids := p.seenWamids ++ [wamid] }

/-- One change of an entry. -/
def readChange (p : Progress) (changeValue : Json) : Decode Progress := do
  let change ← requireMapping changeValue "invalid_change"
  requireKeys change changeKeys "invalid_change"
  if member change "field" ≠ .str "messages" then quarantine "unsupported_change"
  let value ← requireMapping (member change "value") "invalid_value"
  requireKeys value valueKeys "invalid_value"
  if member value "messaging_product" ≠ .str "whatsapp" then quarantine "invalid_messaging_product"
  let metadata ← validateMetadata (member value "metadata")
  let contacts ← decoder.validateContacts (memberOrEmpty value "contacts")
  let statuses ← decoder.validateStatuses (memberOrEmpty value "statuses")
  let errors ← requireList (memberOrEmpty value "errors") "invalid_provider_errors"
    decoder.maxRecords
  let messages ← requireList (memberOrEmpty value "messages") "invalid_messages"
    decoder.maxMessages
  let messageCount := p.messageCount + messages.length
  if decoder.maxMessages < messageCount then quarantine "too_many_messages"
  messages.foldlM (decoder.readMessage float contacts metadata) { p with
    statuses := p.statuses ++ statuses
    providerErrors := p.providerErrors ++ errors
    providerMetadata := p.providerMetadata ++ [metadata]
    rawContacts := p.rawContacts ++ contacts
    messageCount }

/-- One entry. -/
def readEntry (p : Progress) (entryValue : Json) : Decode Progress := do
  let entry ← requireMapping entryValue "invalid_entry"
  requireKeys entry entryKeys "invalid_entry"
  let _ ← requireIdentifier (member entry "id") "invalid_entry"
  let changes ← requireList (member entry "changes") "invalid_changes" decoder.maxChanges
  changes.foldlM (decoder.readChange float) p

/-- `decode_delivery`. -/
def decodeDelivery (exactBytes : List UInt8) : Decode DecodedDelivery := do
  let root ← decoder.parse loads float exactBytes
  requireKeys root rootKeys "invalid_root"
  if member root "object" ≠ .str "whatsapp_business_account" then quarantine "unsupported_object"
  let entries ← requireList (member root "entry") "invalid_entries" decoder.maxEntries
  let p ← entries.foldlM (decoder.readEntry float) {}
  return ⟨p.items, ⟨p.statuses, p.providerErrors, p.providerMetadata⟩, p.mediaTasks, p.rawContacts⟩

end Decoder
end Decoding

/-! ## The messages of a delivery -/

/-- A message with the contacts and the metadata of its change. -/
structure Posted where
  message : Json
  contacts : List Json
  metadata : Json

/-- The elements of a list, and nothing of anything else. -/
def elements (value : Json) : List Json := value.arr?.getD []

def messagesOfChange (change : Json) : List Posted :=
  let value := member change "value"
  (elements (member value "messages")).map fun message =>
    ⟨message, elements (member value "contacts"), member value "metadata"⟩

def messagesOfEntry (entry : Json) : List Posted :=
  (elements (member entry "changes")).flatMap messagesOfChange

/-- The messages of all entries and changes, in the order of the document. -/
def messagesOf (root : Json) : List Posted := (elements (member root "entry")).flatMap messagesOfEntry

/-- The identifier of a message. -/
def Posted.id (posted : Posted) : Json := member posted.message "id"

/-- The message of an item. -/
def posted (item : ConnectorItem Payload) : Posted :=
  ⟨item.payload.message, item.payload.rawContacts, item.payload.runtimeMetadata⟩

/-- The part of a message that holds media: the one its type names, if that is a type of media. -/
def mediaOf (message : Json) : Option Json :=
  ((member message "type").str?.filter (· ∈ mediaTypes)).map (member message)

/-! ## What the checks let through -/

/-- A check that was passed. -/
theorem quarantine_eq_ok {α β : Type} {c : Prop} [Decidable c] {reason : String}
    {k : α → Decode β} {x : Decode β} {b : β}
    (h : (if c then quarantine reason >>= k else x) = .ok b) : ¬c ∧ x = .ok b := by
  by_cases hc : c
  · rw [if_pos hc] at h
    cases h
  · rw [if_neg hc] at h
    exact ⟨hc, h⟩

theorem requireMapping_eq_ok {value value' : Json} {reason : String}
    (h : requireMapping value reason = .ok value') : value' = value := by
  unfold requireMapping at h
  split at h
  · exact (Except.ok.inj h).symm
  · cases h

theorem requireIdentifier_eq_ok {value : Json} {reason s : String}
    (h : requireIdentifier value reason = .ok s) : value = .str s := by
  cases value with
  | str s' =>
      unfold requireIdentifier at h
      dsimp only at h
      split at h
      · rw [Except.ok.inj h]
      · cases h
  | _ => cases h

theorem requireList_eq_ok {value : Json} {reason : String} {maximum : ℕ} {xs : List Json}
    (h : requireList value reason maximum = .ok xs) : value = .arr xs := by
  cases value with
  | arr xs' =>
      unfold requireList at h
      dsimp only at h
      split at h
      · rw [Except.ok.inj h]
      · cases h
  | _ => cases h

/-- A list that may be missing. -/
theorem elements_member {value : Json} {name reason : String} {maximum : ℕ} {xs : List Json}
    (h : requireList (memberOrEmpty value name) reason maximum = .ok xs) :
    elements (member value name) = xs := by
  have hlist := requireList_eq_ok h
  unfold memberOrEmpty at hlist
  unfold member
  cases hget : value.get? name with
  | none =>
      rw [hget] at hlist
      exact Json.arr.inj hlist
  | some found =>
      rw [hget] at hlist
      obtain rfl : found = .arr xs := hlist
      rfl

/-- A list whose elements a check hands on. -/
theorem mapM_eq_ok {f : Json → Decode Json} (hf : ∀ x y, f x = .ok y → y = x)
    {xs ys : List Json} (h : xs.mapM f = .ok ys) : ys = xs := by
  have hall := (Proc.forall₂_of_mapM h).imp fun x y hxy => (hf x y hxy).symm
  rw [List.forall₂_eq_eq_eq] at hall
  exact hall.symm

/-- The items are the messages without later repetitions, no more than allowed, and the tasks are
those of the items that carry media. -/
structure Decoder.DecodesExactly (decoder : Decoder) (root : Json) (decoded : DecodedDelivery) :
    Prop where
  items : decoded.items.map posted = firsts Posted.id (messagesOf root)
  ids : ∀ item ∈ decoded.items, (posted item).id = .str item.providerEventId
  nodup : (decoded.items.map (·.providerEventId)).Nodup
  bounded : decoded.items.length ≤ decoder.maxMessages
  media : List.Forall₂ (fun item task => task.providerEventId = item.providerEventId ∧
      ∃ media, mediaOf item.payload.message = some media ∧ member media "id" = .str task.mediaId)
    (decoded.items.filter fun item => (mediaOf item.payload.message).isSome)
    decoded.mediaDownloadTasks

section Reading
variable {float : {s : List Char // isReal s} → Option ℚ} {decoder : Decoder}

theorem validateMetadata_eq_ok {value metadata : Json}
    (h : Decoder.validateMetadata value = .ok metadata) : metadata = value := by
  obtain ⟨mapping, hmapping, h⟩ := Proc.bind_eq_ok.mp h
  obtain ⟨_, -, h⟩ := Proc.bind_eq_ok.mp h
  obtain ⟨_, -, h⟩ := Proc.bind_eq_ok.mp h
  rw [← requireMapping_eq_ok hmapping]
  split at h
  · obtain ⟨_, -, h⟩ := Proc.bind_eq_ok.mp h
    exact (Except.ok.inj h).symm
  · exact (Except.ok.inj h).symm

theorem validateContact_eq_ok {value contact : Json}
    (h : Decoder.validateContact value = .ok contact) : contact = value := by
  obtain ⟨mapping, hmapping, h⟩ := Proc.bind_eq_ok.mp h
  obtain ⟨_, -, h⟩ := Proc.bind_eq_ok.mp h
  obtain ⟨_, -, h⟩ := Proc.bind_eq_ok.mp h
  obtain ⟨_, -, h⟩ := Proc.bind_eq_ok.mp h
  obtain ⟨_, -, h⟩ := Proc.bind_eq_ok.mp h
  obtain ⟨_, -, h⟩ := Proc.bind_eq_ok.mp h
  rw [← requireMapping_eq_ok hmapping]
  exact (Except.ok.inj h).symm

theorem validateContacts_eq_ok {value : Json} {name : String} {contacts : List Json}
    (h : decoder.validateContacts (memberOrEmpty value name) = .ok contacts) :
    contacts = elements (member value name) := by
  obtain ⟨xs, hxs, h⟩ := Proc.bind_eq_ok.mp h
  rw [elements_member hxs]
  exact mapM_eq_ok (fun x y => validateContact_eq_ok) h

theorem validateMessage_eq_ok {value message : Json}
    (h : decoder.validateMessage float value = .ok message) : message = value := by
  obtain ⟨mapping, hmapping, h⟩ := Proc.bind_eq_ok.mp h
  rw [← requireMapping_eq_ok hmapping]
  cases htype : Decoder.messageTypeOf mapping with
  | none =>
      rw [htype] at h
      cases h
  | some messageType =>
      rw [htype] at h
      obtain ⟨_, -, h⟩ := Proc.bind_eq_ok.mp h
      obtain ⟨_, -, h⟩ := Proc.bind_eq_ok.mp h
      have hrest : ∀ {r : Decode Json}, (do
          let _ ← parseTimestamp (member mapping "timestamp")
          decoder.validateContent float mapping messageType
          pure mapping) = r → r = .ok message → message = mapping := by
        rintro _ rfl h
        obtain ⟨_, -, h⟩ := Proc.bind_eq_ok.mp h
        obtain ⟨_, -, h⟩ := Proc.bind_eq_ok.mp h
        exact (Except.ok.inj h).symm
      split at h
      · obtain ⟨_, -, h⟩ := Proc.bind_eq_ok.mp h
        exact hrest rfl h
      · exact hrest rfl h

/-- The task of a message, and the media that it names. -/
def NamesMedia (wamid : String) (message : Json) (task : Option MediaDownloadTask) : Prop :=
  match mediaOf message with
  | some media => ∃ t, task = some t ∧ t.providerEventId = wamid ∧ member media "id" = .str t.mediaId
  | none => task = none

theorem mediaTask_eq_ok {message : Json} {wamid : String} {task : Option MediaDownloadTask}
    (h : Decoder.mediaTask message wamid = .ok task) : NamesMedia wamid message task := by
  unfold NamesMedia mediaOf
  unfold Decoder.mediaTask at h
  cases htype : (member message "type").str? with
  | none =>
      rw [htype] at h
      exact (Except.ok.inj h).symm
  | some messageType =>
      rw [htype] at h
      dsimp only at h
      by_cases hmedia : messageType ∈ mediaTypes
      · rw [if_neg (not_not_intro hmedia)] at h
        obtain ⟨media, hmapping, h⟩ := Proc.bind_eq_ok.mp h
        obtain ⟨mediaId, hid, h⟩ := Proc.bind_eq_ok.mp h
        obtain ⟨mediaType, -, h⟩ := Proc.bind_eq_ok.mp h
        rw [requireMapping_eq_ok hmapping] at hid
        simp only [Option.filter_some, hmedia, decide_true, if_true, Option.map_some]
        exact ⟨_, (Except.ok.inj h).symm, rfl, requireIdentifier_eq_ok hid⟩
      · rw [if_pos hmedia] at h
        simp only [Option.filter_some, hmedia, decide_false, Bool.false_eq_true, if_false, Option.map_none]
        exact (Except.ok.inj h).symm

/-! ## The loops -/

/-- What has been collected of the messages that were read. -/
structure Collects (posts : List Posted) (p : Decoder.Progress) : Prop where
  items : p.items.map posted = firsts Posted.id posts
  ids : ∀ item ∈ p.items, (posted item).id = .str item.providerEventId
  seen : p.seenWamids = p.items.map (·.providerEventId)
  tasks : p.mediaTasks = p.items.filterMap (·.payload.mediaDownloadTask)
  media : ∀ item ∈ p.items,
    NamesMedia item.providerEventId item.payload.message item.payload.mediaDownloadTask

/-- One item more. -/
theorem Collects.push {posts : List Posted} {p : Decoder.Progress} (h : Collects posts p)
    {item : ConnectorItem Payload} (hid : (posted item).id = .str item.providerEventId)
    (hnew : (posted item).id ∉ posts.map Posted.id)
    (hmedia : NamesMedia item.providerEventId item.payload.message
      item.payload.mediaDownloadTask) :
    Collects (posts ++ [posted item]) { p with
      items := p.items ++ [item]
      mediaTasks := p.mediaTasks ++ item.payload.mediaDownloadTask.toList
      seenWamids := p.seenWamids ++ [item.providerEventId] } := by
  constructor
  · rw [firsts_append_singleton, if_neg hnew, List.map_append, h.items]
    rfl
  · intro item' hitem'
    rcases List.mem_append.mp hitem' with hold | hlast
    · exact h.ids item' hold
    · rw [List.mem_singleton.mp hlast]
      exact hid
  · rw [List.map_append, ← h.seen]
    rfl
  · rw [List.filterMap_append, ← h.tasks]
    cases htask : item.payload.mediaDownloadTask <;> simp [htask]
  · intro item' hitem'
    rcases List.mem_append.mp hitem' with hold | hlast
    · exact h.media item' hold
    · rw [List.mem_singleton.mp hlast]
      exact hmedia

/-- A message is collected unless its identifier was seen. -/
theorem readMessage_collects {contacts : List Json} {metadata message : Json} {posts : List Posted}
    {p p' : Decoder.Progress} (h : Collects posts p)
    (hread : decoder.readMessage float contacts metadata p message = .ok p') :
    Collects (posts ++ [⟨message, contacts, metadata⟩]) p' ∧ p'.messageCount = p.messageCount := by
  obtain ⟨message', hmessage, hread⟩ := Proc.bind_eq_ok.mp hread
  rw [validateMessage_eq_ok hmessage] at hread
  obtain ⟨wamid, hwamid, hread⟩ := Proc.bind_eq_ok.mp hread
  have hid : Posted.id ⟨message, contacts, metadata⟩ = .str wamid := requireIdentifier_eq_ok hwamid
  -- the identifiers seen are those of the messages read
  have hseen : wamid ∈ p.seenWamids ↔ Json.str wamid ∈ posts.map Posted.id := by
    rw [← mem_map_firsts, ← h.items, List.map_map, h.seen, List.mem_map, List.mem_map]
    constructor
    · rintro ⟨item, hitem, rfl⟩
      exact ⟨item, hitem, h.ids item hitem⟩
    · rintro ⟨item, hitem, hsame⟩
      exact ⟨item, hitem, Json.str.inj ((h.ids item hitem).symm.trans hsame)⟩
  by_cases hold : wamid ∈ p.seenWamids
  · rw [if_pos hold] at hread
    obtain rfl := Except.ok.inj hread
    refine ⟨⟨?_, h.ids, h.seen, h.tasks, h.media⟩, rfl⟩
    rw [firsts_append_singleton, hid, if_pos (hseen.mp hold)]
    exact h.items
  · rw [if_neg hold] at hread
    obtain ⟨occurredAt, -, hread⟩ := Proc.bind_eq_ok.mp hread
    obtain ⟨task, htask, hread⟩ := Proc.bind_eq_ok.mp hread
    dsimp only at hread
    split at hread
    · cases hread
    · obtain rfl := Except.ok.inj hread
      have hpush := @Collects.push posts p h
        ⟨wamid, occurredAt, wamid, ⟨message, contacts, metadata, task⟩⟩ hid
      exact ⟨hpush (fun hmem => hold (hseen.mpr (hid ▸ hmem))) (mediaTask_eq_ok htask), rfl⟩

theorem readMessages_collects {contacts : List Json} {metadata : Json} {messages : List Json}
    {posts : List Posted} {p p' : Decoder.Progress} (h : Collects posts p)
    (hread : messages.foldlM (decoder.readMessage float contacts metadata) p = .ok p') :
    Collects (posts ++ messages.map fun message => ⟨message, contacts, metadata⟩) p' ∧
      p'.messageCount = p.messageCount := by
  have hstep : ∀ ps t (message : Json) t',
      Collects ps t ∧ t.messageCount = p.messageCount →
      decoder.readMessage float contacts metadata t message = .ok t' →
        Collects (ps ++ [⟨message, contacts, metadata⟩]) t' ∧
          t'.messageCount = p.messageCount := by
    intro ps t message t' ht hmessage
    obtain ⟨hcollects, hsame⟩ := readMessage_collects ht.1 hmessage
    exact ⟨hcollects, hsame.trans ht.2⟩
  have hall := foldlM_flatMap hstep ⟨h, rfl⟩ hread
  have hmap : messages.flatMap (fun message => [(⟨message, contacts, metadata⟩ : Posted)]) =
      messages.map fun message => ⟨message, contacts, metadata⟩ := List.flatMap_pure_eq_map _ _
  rwa [hmap] at hall

/-- The messages that were read are counted. -/
structure Reads (decoder : Decoder) (posts : List Posted) (p : Decoder.Progress) : Prop where
  collects : Collects posts p
  counted : posts.length ≤ p.messageCount
  bounded : p.messageCount ≤ decoder.maxMessages

theorem readChange_reads {posts : List Posted} {p p' : Decoder.Progress} {change : Json}
    (h : Reads decoder posts p) (hread : decoder.readChange float p change = .ok p') :
    Reads decoder (posts ++ messagesOfChange change) p' := by
  obtain ⟨change', hchange, hread⟩ := Proc.bind_eq_ok.mp hread
  rw [requireMapping_eq_ok hchange] at hread
  obtain ⟨_, -, hread⟩ := Proc.bind_eq_ok.mp hread
  obtain ⟨-, hread⟩ := quarantine_eq_ok hread
  obtain ⟨value, hvalue, hread⟩ := Proc.bind_eq_ok.mp hread
  rw [requireMapping_eq_ok hvalue] at hread
  obtain ⟨_, -, hread⟩ := Proc.bind_eq_ok.mp hread
  obtain ⟨-, hread⟩ := quarantine_eq_ok hread
  obtain ⟨metadata, hmetadata, hread⟩ := Proc.bind_eq_ok.mp hread
  obtain ⟨contacts, hcontacts, hread⟩ := Proc.bind_eq_ok.mp hread
  obtain ⟨statuses, -, hread⟩ := Proc.bind_eq_ok.mp hread
  obtain ⟨errors, -, hread⟩ := Proc.bind_eq_ok.mp hread
  obtain ⟨messages, hmessages, hread⟩ := Proc.bind_eq_ok.mp hread
  obtain ⟨hcount, hread⟩ := quarantine_eq_ok hread
  rw [validateMetadata_eq_ok hmetadata, validateContacts_eq_ok hcontacts] at hread
  have hmessagesOf : messagesOfChange change = messages.map fun message =>
      ⟨message, elements (member (member change "value") "contacts"),
        member (member change "value") "metadata"⟩ := by
    rw [messagesOfChange, elements_member hmessages]
  have hstart : Collects posts { p with
      statuses := p.statuses ++ statuses
      providerErrors := p.providerErrors ++ errors
      providerMetadata := p.providerMetadata ++ [member (member change "value") "metadata"]
      rawContacts := p.rawContacts ++ elements (member (member change "value") "contacts")
      messageCount := p.messageCount + messages.length } :=
    ⟨h.collects.items, h.collects.ids, h.collects.seen, h.collects.tasks, h.collects.media⟩
  obtain ⟨hcollects, hsame⟩ := readMessages_collects hstart hread
  rw [hmessagesOf]
  refine ⟨hcollects, ?_, ?_⟩
  · rw [hsame, List.length_append, List.length_map]
    exact Nat.add_le_add_right h.counted _
  · rw [hsame]
    exact not_lt.mp hcount

theorem readEntry_reads {posts : List Posted} {p p' : Decoder.Progress} {entry : Json}
    (h : Reads decoder posts p) (hread : decoder.readEntry float p entry = .ok p') :
    Reads decoder (posts ++ messagesOfEntry entry) p' := by
  obtain ⟨entry', hentry, hread⟩ := Proc.bind_eq_ok.mp hread
  rw [requireMapping_eq_ok hentry] at hread
  obtain ⟨_, -, hread⟩ := Proc.bind_eq_ok.mp hread
  obtain ⟨_, -, hread⟩ := Proc.bind_eq_ok.mp hread
  obtain ⟨changes, hchanges, hread⟩ := Proc.bind_eq_ok.mp hread
  have helements : elements (member entry "changes") = changes := by
    rw [requireList_eq_ok hchanges]
    rfl
  rw [messagesOfEntry, helements]
  exact foldlM_flatMap (f := decoder.readChange float) (fun _ _ _ _ => readChange_reads) h hread

theorem parse_eq_ok {loads : List UInt8 → Except LoadsError Json} {exactBytes : List UInt8}
    {root : Json} (h : decoder.parse loads float exactBytes = .ok root) :
    loads exactBytes = .ok root := by
  obtain ⟨-, h⟩ := quarantine_eq_ok h
  split at h
  next value hloads =>
    obtain ⟨_, hvalue, h⟩ := Proc.bind_eq_ok.mp h
    obtain ⟨_, -, h⟩ := Proc.bind_eq_ok.mp h
    rw [hloads, Except.ok.inj hvalue, requireMapping_eq_ok h]
  all_goals cases h

/-- The items of a delivery that is accepted are its messages without later repetitions, and its
tasks are those of the items with media. -/
theorem decodeDelivery_exact {loads : List UInt8 → Except LoadsError Json} {exactBytes : List UInt8}
    {decoded : DecodedDelivery}
    (h : decoder.decodeDelivery loads float exactBytes = .ok decoded) :
    ∃ root, loads exactBytes = .ok root ∧ decoder.DecodesExactly root decoded := by
  obtain ⟨root, hroot, h⟩ := Proc.bind_eq_ok.mp h
  obtain ⟨_, -, h⟩ := Proc.bind_eq_ok.mp h
  obtain ⟨-, h⟩ := quarantine_eq_ok h
  obtain ⟨entries, hentries, h⟩ := Proc.bind_eq_ok.mp h
  obtain ⟨p, hp, h⟩ := Proc.bind_eq_ok.mp h
  obtain rfl := Except.ok.inj h
  have helements : elements (member root "entry") = entries := by
    rw [requireList_eq_ok hentries]
    rfl
  have hempty : Reads decoder [] {} :=
    ⟨⟨rfl, List.forall_mem_nil _, rfl, rfl, List.forall_mem_nil _⟩, le_rfl, Nat.zero_le _⟩
  have hreads : Reads decoder (messagesOf root) p := by
    rw [messagesOf, helements]
    exact foldlM_flatMap (f := decoder.readEntry float) (fun _ _ _ _ => readEntry_reads) hempty hp
  obtain ⟨hcollects, hcounted, hbounded⟩ := hreads
  refine ⟨root, parse_eq_ok hroot, hcollects.items, hcollects.ids, ?_, ?_, ?_⟩
  · have hnodup : ((firsts Posted.id (messagesOf root)).map Posted.id).Nodup :=
      nodup_map_firsts (messagesOf root)
    rw [← hcollects.items, List.map_map] at hnodup
    have hsame : p.items.map (Posted.id ∘ posted) =
        (p.items.map (·.providerEventId)).map Json.str := by
      rw [List.map_map]
      exact List.map_congr_left hcollects.ids
    rw [hsame] at hnodup
    exact hnodup.of_map
  · have hlength : (firsts Posted.id (messagesOf root)).length ≤ (messagesOf root).length :=
      (firsts_sublist (messagesOf root)).length_le
    rw [← hcollects.items, List.length_map] at hlength
    exact hlength.trans (hcounted.trans hbounded)
  · rw [hcollects.tasks]
    refine forall₂_filter_filterMap fun item hitem => ?_
    have hmedia := hcollects.media item hitem
    unfold NamesMedia at hmedia
    cases hof : mediaOf item.payload.message with
    | none =>
        rw [hof] at hmedia
        exact hmedia
    | some media =>
        rw [hof] at hmedia
        obtain ⟨task, htask, hid, hmediaId⟩ := hmedia
        exact ⟨task, htask, hid, media, rfl, hmediaId⟩

end Reading

/-! ### A delivery with a picture -/

theorem bounds_positive : ∀ bound ∈ [1048576, 100, 100, 100, 100, 20, 20000, 65536], 1 ≤ bound := by
  decide

/-- The decoder with its default bounds. -/
def defaultDecoder : Decoder :=
  ⟨1048576, 100, 100, 100, 100, 20, 20000, 65536, bounds_positive⟩

/-- A reader of compact JSON in ASCII. -/
def compactLoads (exactBytes : List UInt8) : Except LoadsError Json :=
  match Json.loads (exactBytes.map fun byte => Char.ofNat byte.toNat) with
  | some value => .ok value
  | none => .error .invalidJson

/-- A picture. -/
def picture : Json := .obj [("id", .str "wamid.1"), ("timestamp", .str "1700000000"),
  ("type", .str "image"), ("image", .obj [("id", .str "media-1"), ("mime_type", .str "image/png")])]

/-- A text. -/
def note : Json := .obj [("id", .str "wamid.2"), ("timestamp", .str "1700000001"),
  ("type", .str "text"), ("text", .obj [("body", .str "ok")])]

/-- A delivery of the picture, the text, and the picture once more. -/
def pictureTwice : Json := .obj [("object", .str "whatsapp_business_account"),
  ("entry", .arr [.obj [("id", .str "1"), ("changes", .arr [.obj [("field", .str "messages"),
    ("value", .obj [("messaging_product", .str "whatsapp"),
      ("metadata", .obj [("phone_number_id", .str "2")]),
      ("messages", .arr [picture, note, picture])])]])]])]

def pictureTwiceBody : List UInt8 := pictureTwice.dumps.map fun c => UInt8.ofNat c.toNat

def decodedPicture : DecodedDelivery :=
  match defaultDecoder.decodeDelivery compactLoads (fun _ => none) pictureTwiceBody with
  | .ok decoded => decoded
  | .error _ => ⟨[], ⟨[], [], []⟩, [], []⟩

theorem decodedPicture_ok : defaultDecoder.decodeDelivery compactLoads (fun _ => none)
    pictureTwiceBody = .ok decodedPicture := by
  have hok : (defaultDecoder.decodeDelivery compactLoads (fun _ => none)
      pictureTwiceBody).isOk = true := by decide +kernel
  unfold decodedPicture
  cases h : defaultDecoder.decodeDelivery compactLoads (fun _ => none) pictureTwiceBody with
  | ok decoded => rfl
  | error e =>
      rw [h] at hok
      cases hok

theorem decodeDelivery_exact_picture : decodedPicture.items.length = 2 ∧
    ∃ root, compactLoads pictureTwiceBody = .ok root ∧
      defaultDecoder.DecodesExactly root decodedPicture :=
  ⟨by decide +kernel, decodeDelivery_exact decodedPicture_ok⟩

end WhatsApp
end EsanGbos.Observer
