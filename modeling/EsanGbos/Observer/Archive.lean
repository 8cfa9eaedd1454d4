import EsanGbos.Lib.Firsts
import EsanGbos.Lib.Json
import EsanGbos.Lib.Nearest
import EsanGbos.Lib.Proc
import EsanGbos.Observer.Items
import Mathlib.Data.List.Sort

/-!
# Normalizing archived messages

The archive of WeCom hands on messages whose exact content is a JSON object. A batch of them is
sorted into items, control states and repetitions; whatever the adapter cannot read is refused with
an error of its own. The constructor of an item is stricter than the adapter, and what it refuses
leaves the adapter as another exception. The reader of JSON is a parameter, and so is the value of a
number that is no integer.

## Main definitions

* `normalizeBatch` — the adapter's normalization of a batch.
* `FailsClosed` — every message has one place in the batch, or the error is the adapter's.
* `Clean` — no message that the constructor of an item refuses is reached.

## Main results

* `normalizeBatch_failsClosed_iff` — the batches that are normalized or refused as they should be.
-/
namespace EsanGbos.Observer.WeCom
open Lib

/-! ## Errors -/

inductive ArchiveDisposition where
  | retry | pause | quarantine | preserveOnly
deriving DecidableEq, Repr

/-- `WeComArchiveError`. -/
structure ArchiveError where
  code : String
  disposition : ArchiveDisposition
deriving DecidableEq, Repr

inductive Raise where
  | archiveError (error : ArchiveError)
  | valueError (message : String)
deriving DecidableEq, Repr

/-- What the reader of JSON raises; the first two are `_StrictJsonViolation`. -/
inductive LoadsError where
  | duplicateJsonKey
  | nonFiniteJsonNumber
  | recursionError
  | valueError

/-- A step that raises only the adapter's own error. -/
abbrev Archive (α : Type) := Except ArchiveError α

instance : MonadLift (Except ArchiveError) (Except Raise) := ⟨fun x => x.mapError .archiveError⟩

def quarantine {α : Type} (code : String) : Archive α := .error ⟨code, .quarantine⟩

/-! ## Messages -/

structure DecryptedMessage where
  seq : ℕ
  exactBytes : List UInt8
  seq_pos : 0 < seq

structure WeComArchiveConfig where
  maxDecryptedBytes : ℕ
  maxJsonDepth : ℕ
  maxJsonNodes : ℕ
  bounds : (1 ≤ maxDecryptedBytes ∧ maxDecryptedBytes ≤ 16 * 1024 * 1024) ∧
    (1 ≤ maxJsonDepth ∧ maxJsonDepth ≤ 128) ∧ 1 ≤ maxJsonNodes ∧ maxJsonNodes ≤ 100000

structure Payload where
  messageType : String
  decryptedContentRef : String
  mediaPending : Bool
deriving DecidableEq

structure ArchiveControlState where
  seq : ℕ
  providerEventId : String
  disposition : ArchiveDisposition
  reasonCode : String
  contentRef : String
deriving DecidableEq

structure NormalizedArchiveBatch where
  items : List (ConnectorItem Payload)
  controls : List ArchiveControlState
  duplicateMsgids : List String

def mediaMessageTypes : List String := ["image", "voice", "video", "emotion", "file"]
def controlMessageTypes : List String := ["revoke", "agree", "disagree"]

def businessMessageTypes : List String :=
  ["calendar", "card", "channels_shop_order", "channels_shop_product", "chatrecord", "collect",
    "docmsg", "emotion", "external_redpacket", "file", "image", "link", "location", "markdown",
    "meeting", "meeting_voice_call", "mixed", "news", "redpacket", "sphfeed", "text", "todo",
    "video", "voice", "voip_doc_share", "vote", "weapp"]

def knownActions : List String := ["send", "recall", "switch"]

/-! ## Reading a message -/

section Reading
variable (loads : List UInt8 → Except LoadsError Json)
  (float : {s : List Char // isReal s} → Option ℚ) (config : WeComArchiveConfig)

/-- The loop of `_walk_mappings`, over a stack of values and depths and the nodes still allowed. -/
def walkMappings : ℕ → List (Json × ℕ) → Archive Unit
  | _, [] => .ok ()
  | 0, _ :: _ => quarantine "wecom_archive.json_node_limit_exceeded"
  | remaining + 1, (current, depth) :: stack =>
      if config.maxJsonDepth < depth then quarantine "wecom_archive.json_depth_exceeded"
      else match current with
        | .obj ms => walkMappings remaining (ms.map (fun m => (m.2, depth + 1)) ++ stack)
        | .arr xs => walkMappings remaining (xs.map (fun x => (x, depth + 1)) ++ stack)
        | .real lexeme =>
            if (float lexeme).isNone then quarantine "wecom_archive.non_finite_json_number"
            else walkMappings remaining stack
        | .null | .bool _ | .int _ | .str _ => walkMappings remaining stack

/-- `_parse_decrypted_json`. -/
def parseDecrypted (message : DecryptedMessage) : Archive Json := do
  if config.maxDecryptedBytes < message.exactBytes.length then
    quarantine "wecom_archive.decrypted_message_too_large"
  let value ← match loads message.exactBytes with
    | .ok value => .ok value
    | .error .duplicateJsonKey => quarantine "wecom_archive.duplicate_json_key"
    | .error .nonFiniteJsonNumber => quarantine "wecom_archive.non_finite_json_number"
    | .error .recursionError => quarantine "wecom_archive.json_depth_exceeded"
    | .error .valueError => quarantine "wecom_archive.invalid_decrypted_message"
  if value.isObj = false then quarantine "wecom_archive.invalid_decrypted_message"
  walkMappings float config config.maxJsonNodes [(value, 1)]
  return value

/-- `_required_string`. -/
def requiredString (payload : Json) (fieldName : String) : Archive String :=
  match payload.get? fieldName with
  | some (.str s) =>
      if s = "" ∨ 512 < s.length then quarantine "wecom_archive.invalid_decrypted_message" else .ok s
  | _ => quarantine "wecom_archive.invalid_decrypted_message"

/-- `_message_time`: milliseconds since the first day of 1970, as a float of seconds that is rounded
to microseconds. What is no float is beyond the calendar as well. -/
def messageTime (payload : Json) : Archive Datetime :=
  match payload.get? "msgtime" with
  | some (.int value) =>
      if value < 0 then quarantine "wecom_archive.invalid_decrypted_message"
      else
        let seconds := binary64.round (value / 1000)
        match Datetime.of? (62135596800000000 + nearest (seconds * 1000000)) 0 with
        | some time => .ok time
        | none => quarantine "wecom_archive.invalid_decrypted_message"
  | _ => quarantine "wecom_archive.invalid_decrypted_message"

/-- What is read of a message. -/
structure Fields where
  msgid : String
  msgtype : String
  occurredAt : Datetime
  action : Option Json

def readFields (message : DecryptedMessage) : Archive Fields := do
  let payload ← parseDecrypted loads float config message
  let msgid ← requiredString payload "msgid"
  let msgtype ← requiredString payload "msgtype"
  let occurredAt ← messageTime payload
  return ⟨msgid, msgtype, occurredAt, payload.get? "action"⟩

/-- `_control_state`. -/
def controlState (seq : ℕ) (fields : Fields) (contentRef : String) :
    Archive (Option ArchiveControlState) :=
  let state disposition reasonCode : Archive (Option ArchiveControlState) :=
    .ok (some ⟨seq, fields.msgid, disposition, reasonCode, contentRef⟩)
  if fields.action.any fun action => action.str?.all (· ∉ knownActions) then
    quarantine "wecom_archive.unsupported_message_semantics"
  else if fields.msgtype ∉ businessMessageTypes ++ controlMessageTypes then
    quarantine "wecom_archive.unsupported_message_semantics"
  else if fields.action.bind Json.str? = some "recall" then
    state .preserveOnly "wecom_archive.message_recalled"
  else if fields.action.bind Json.str? = some "switch" then
    state .preserveOnly "wecom_archive.message_switched"
  else if fields.msgtype = "revoke" then state .preserveOnly "wecom_archive.message_revoked"
  else if fields.msgtype = "agree" then state .preserveOnly "wecom_archive.consent_granted"
  else if fields.msgtype = "disagree" then state .pause "wecom_archive.consent_declined"
  else .ok none

/-! ## The batch -/

/-- `_require_content_ref`. -/
def requireContentRef (contentRef : String) : Except Raise Unit :=
  if isIdentifier 512 contentRef then .ok ()
  else .error (.valueError "invalid decrypted content reference")

/-- `str(seq)`. -/
def cursorText (seq : ℕ) : Except Raise String :=
  if (toString seq).length ≤ 4300 then .ok (toString seq)
  else .error (.valueError "Exceeds the limit (4300 digits) for integer string conversion")

/-- What the loop has collected. -/
structure Progress where
  emitted : Finset String
  items : List (ConnectorItem Payload) := []
  controls : List ArchiveControlState := []
  duplicates : List String := []

/-- A message whose identifier is new. -/
def emitMessage (p : Progress) (pair : DecryptedMessage × String) (fields : Fields) :
    Except Raise Progress := do
  let emitted := insert fields.msgid p.emitted
  match ← controlState pair.1.seq fields pair.2 with
  | some control => return { p with emitted, controls := p.controls ++ [control] }
  | none =>
      let sourceCursor ← cursorText pair.1.seq
      let item : ConnectorItem Payload := ⟨fields.msgid, fields.occurredAt, sourceCursor,
        ⟨fields.msgtype, pair.2, fields.msgtype ∈ mediaMessageTypes⟩⟩
      match item.refusal with
      | some refusal => .error (.valueError refusal)
      | none => return { p with emitted, items := p.items ++ [item] }

/-- One message, with the reference of its content. -/
def normalizeMessage (p : Progress) (pair : DecryptedMessage × String) : Except Raise Progress := do
  requireContentRef pair.2
  let fields ← readFields loads float config pair.1
  if fields.msgid ∈ p.emitted then
    return { p with duplicates := p.duplicates ++ [fields.msgid] }
  else emitMessage p pair fields

/-- `_validate_decrypted_sequences`, after the message `previous`. -/
def validateDecryptedSequences : Option ℕ → List DecryptedMessage → Archive Unit
  | _, [] => .ok ()
  | previous, message :: messages =>
      if previous.any (message.seq ≤ ·) then quarantine "wecom_archive.seq_rollback"
      else validateDecryptedSequences (some message.seq) messages

/-- The order of sequence numbers. -/
def precedes (pair pair' : DecryptedMessage × String) : Prop := pair.1.seq ≤ pair'.1.seq

instance : DecidableRel precedes := fun _ _ => Nat.decLe ..

/-- The messages with their references, in the order of their sequence numbers. -/
def orderedPairs (messages : List DecryptedMessage) (contentRefs : List String) :
    List (DecryptedMessage × String) :=
  (messages.zip contentRefs).insertionSort precedes

/-- `normalize_batch`. -/
def normalizeBatch (messages : List DecryptedMessage) (contentRefs : List String)
    (seenMsgids : Finset String) : Except Raise NormalizedArchiveBatch := do
  if contentRefs.length ≠ messages.length then
    throw (.valueError "content_refs must identify every decrypted message")
  let pairs := orderedPairs messages contentRefs
  validateDecryptedSequences none (pairs.map Prod.fst)
  let p ← pairs.foldlM (normalizeMessage loads float config) { emitted := seenMsgids }
  return ⟨p.items, p.controls, p.duplicates⟩

/-! ## What a batch should be -/

/-- Where a message has gone. -/
inductive Place where
  | item (item : ConnectorItem Payload)
  | control (control : ArchiveControlState)
  | duplicate (msgid : String)

def Place.item? : Place → Option (ConnectorItem Payload)
  | item i => some i
  | _ => none

def Place.control? : Place → Option ArchiveControlState
  | control c => some c
  | _ => none

def Place.duplicate? : Place → Option String
  | duplicate msgid => some msgid
  | _ => none

/-- The identifier of a message, as its content has it. -/
def Names (message : DecryptedMessage) (msgid : String) : Prop :=
  ∃ payload, parseDecrypted loads float config message = .ok payload ∧
    payload.get? "msgid" = some (.str msgid)

/-- The place is the one of this message. -/
inductive Accounts (pair : DecryptedMessage × String) : Place → Prop
  | item {item : ConnectorItem Payload}
      (hnames : Names loads float config pair.1 item.providerEventId)
      (hcursor : item.sourceCursor = toString pair.1.seq)
      (hcontent : item.payload.decryptedContentRef = pair.2) : Accounts pair (.item item)
  | control {control : ArchiveControlState}
      (hnames : Names loads float config pair.1 control.providerEventId)
      (hseq : control.seq = pair.1.seq) (hcontent : control.contentRef = pair.2) :
      Accounts pair (.control control)
  | duplicate {msgid : String} (hnames : Names loads float config pair.1 msgid) :
      Accounts pair (.duplicate msgid)

/-- Every message has one place, and the three lists are the places in order. -/
def Partitions (pairs : List (DecryptedMessage × String)) (items : List (ConnectorItem Payload))
    (controls : List ArchiveControlState) (duplicates : List String) : Prop :=
  ∃ places, List.Forall₂ (Accounts loads float config) pairs places ∧
    items = places.filterMap Place.item? ∧ controls = places.filterMap Place.control? ∧
    duplicates = places.filterMap Place.duplicate?

/-- The identifiers of items are different, and none of them has been seen. -/
structure Fresh (seenMsgids : Finset String) (items : List (ConnectorItem Payload)) : Prop where
  nodup : (items.map (·.providerEventId)).Nodup
  unseen : ∀ item ∈ items, item.providerEventId ∉ seenMsgids

/-- The batch accounts for each message once, in ascending order; or the error is the adapter's. -/
def FailsClosed (messages : List DecryptedMessage) (contentRefs : List String)
    (seenMsgids : Finset String) : Except Raise NormalizedArchiveBatch → Prop
  | .ok batch => (∃ pairs, pairs.Perm (messages.zip contentRefs) ∧
      (pairs.map Prod.fst).Perm messages ∧ pairs.Pairwise (·.1.seq < ·.1.seq) ∧
      Partitions loads float config pairs batch.items batch.controls batch.duplicateMsgids) ∧
      Fresh seenMsgids batch.items
  | .error (.archiveError _) => True
  | .error (.valueError _) => False

/-- Up to the first message that the adapter refuses, the references are identifiers, and so are the
identifiers of messages that become items, whose sequence numbers have at most 4096 digits. -/
def Clean : Finset String → List (DecryptedMessage × String) → Prop
  | _, [] => True
  | emitted, pair :: pairs => isIdentifier 512 pair.2 = true ∧
      ∀ fields, readFields loads float config pair.1 = .ok fields →
        if fields.msgid ∈ emitted then Clean emitted pairs
        else ∀ control, controlState pair.1.seq fields pair.2 = .ok control →
          (control = none → isIdentifier 512 fields.msgid = true ∧ (toString pair.1.seq).length ≤ 4096) ∧
            Clean (insert fields.msgid emitted) pairs

/-- What has been collected of the messages that were normalized. -/
structure Collects (seenMsgids : Finset String) (pairs : List (DecryptedMessage × String))
    (p : Progress) : Prop where
  partitions : Partitions loads float config pairs p.items p.controls p.duplicates
  fresh : Fresh seenMsgids p.items
  seen : seenMsgids ⊆ p.emitted
  emitted : ∀ item ∈ p.items, item.providerEventId ∈ p.emitted

/-! ## One message -/

/-- What becomes of one message. -/
inductive Step (p : Progress) (pair : DecryptedMessage × String) : Except Raise Progress → Prop
  | contentRef (message : String) (href : isIdentifier 512 pair.2 = false) :
      Step p pair (.error (.valueError message))
  | refused (e : ArchiveError) (href : isIdentifier 512 pair.2 = true)
      (hfields : readFields loads float config pair.1 = .error e) :
      Step p pair (.error (.archiveError e))
  | duplicate (fields : Fields) (href : isIdentifier 512 pair.2 = true)
      (hfields : readFields loads float config pair.1 = .ok fields)
      (hmem : fields.msgid ∈ p.emitted) :
      Step p pair (.ok { p with duplicates := p.duplicates ++ [fields.msgid] })
  | unsupported (fields : Fields) (e : ArchiveError) (href : isIdentifier 512 pair.2 = true)
      (hfields : readFields loads float config pair.1 = .ok fields)
      (hnew : fields.msgid ∉ p.emitted)
      (hcontrol : controlState pair.1.seq fields pair.2 = .error e) :
      Step p pair (.error (.archiveError e))
  | control (fields : Fields) (control : ArchiveControlState)
      (href : isIdentifier 512 pair.2 = true)
      (hfields : readFields loads float config pair.1 = .ok fields)
      (hnew : fields.msgid ∉ p.emitted)
      (hcontrol : controlState pair.1.seq fields pair.2 = .ok (some control)) :
      Step p pair (.ok { p with
        emitted := insert fields.msgid p.emitted, controls := p.controls ++ [control] })
  | itemRefused (fields : Fields) (message : String) (href : isIdentifier 512 pair.2 = true)
      (hfields : readFields loads float config pair.1 = .ok fields)
      (hnew : fields.msgid ∉ p.emitted)
      (hcontrol : controlState pair.1.seq fields pair.2 = .ok none)
      (hitem : ¬(isIdentifier 512 fields.msgid = true ∧ (toString pair.1.seq).length ≤ 4096)) :
      Step p pair (.error (.valueError message))
  | item (fields : Fields) (href : isIdentifier 512 pair.2 = true)
      (hfields : readFields loads float config pair.1 = .ok fields)
      (hnew : fields.msgid ∉ p.emitted)
      (hcontrol : controlState pair.1.seq fields pair.2 = .ok none)
      (hitem : isIdentifier 512 fields.msgid = true ∧ (toString pair.1.seq).length ≤ 4096) :
      Step p pair (.ok { p with
        emitted := insert fields.msgid p.emitted
        items := p.items ++ [⟨fields.msgid, fields.occurredAt, toString pair.1.seq,
          ⟨fields.msgtype, pair.2, fields.msgtype ∈ mediaMessageTypes⟩⟩] })

variable {loads float config}

theorem toString_ne_empty (seq : ℕ) : toString seq ≠ "" := by
  intro h
  have hpos : 0 < seq.repr.length := Nat.length_repr_pos
  have hempty : seq.repr = "" := h
  rw [hempty] at hpos
  exact absurd hpos (by decide)

/-- The item of a message passes the checks of its constructor. -/
theorem itemOf_refusal {fields : Fields} {seq : ℕ} {payload : Payload} :
    ConnectorItem.refusal ⟨fields.msgid, fields.occurredAt, toString seq, payload⟩ = none ↔
      isIdentifier 512 fields.msgid = true ∧ (toString seq).length ≤ 4096 := by
  rw [ConnectorItem.refusal_eq_none]
  constructor
  · intro h
    exact ⟨h.1, h.2.1⟩
  · intro h
    exact ⟨h.1, h.2, toString_ne_empty seq⟩

theorem emitMessage_step {p : Progress} {pair : DecryptedMessage × String} {fields : Fields}
    (href : isIdentifier 512 pair.2 = true)
    (hfields : readFields loads float config pair.1 = .ok fields)
    (hnew : fields.msgid ∉ p.emitted) :
    Step loads float config p pair (emitMessage p pair fields) := by
  unfold emitMessage
  cases hcontrol : controlState pair.1.seq fields pair.2 with
  | error e => exact .unsupported fields e href hfields hnew hcontrol
  | ok control =>
      cases control with
      | some control => exact .control fields control href hfields hnew hcontrol
      | none =>
          change Step loads float config p pair (cursorText pair.1.seq >>= _)
          unfold cursorText
          by_cases hdigits : (toString pair.1.seq).length ≤ 4300
          · rw [if_pos hdigits]
            have hitem := @itemOf_refusal fields pair.1.seq
              ⟨fields.msgtype, pair.2, fields.msgtype ∈ mediaMessageTypes⟩
            change Step loads float config p pair (match ConnectorItem.refusal _ with
              | some refusal => _
              | none => _)
            cases hrefusal : ConnectorItem.refusal (⟨fields.msgid, fields.occurredAt,
                toString pair.1.seq, ⟨fields.msgtype, pair.2, fields.msgtype ∈ mediaMessageTypes⟩⟩ :
                ConnectorItem Payload) with
            | some refusal =>
                refine .itemRefused fields _ href hfields hnew hcontrol fun hvalid => ?_
                rw [hitem.mpr hvalid] at hrefusal
                cases hrefusal
            | none => exact .item fields href hfields hnew hcontrol (hitem.mp hrefusal)
          · rw [if_neg hdigits]
            refine .itemRefused fields _ href hfields hnew hcontrol fun hvalid => ?_
            exact hdigits (hvalid.2.trans (by omega))

theorem normalizeMessage_step (p : Progress) (pair : DecryptedMessage × String) :
    Step loads float config p pair (normalizeMessage loads float config p pair) := by
  unfold normalizeMessage requireContentRef
  by_cases href : isIdentifier 512 pair.2 = true
  · rw [if_pos href]
    cases hfields : readFields loads float config pair.1 with
    | error e => exact .refused e href hfields
    | ok fields =>
        change Step loads float config p pair (if fields.msgid ∈ p.emitted then _ else _)
        by_cases hmem : fields.msgid ∈ p.emitted
        · rw [if_pos hmem]
          exact .duplicate fields href hfields hmem
        · rw [if_neg hmem]
          exact emitMessage_step href hfields hmem
  · rw [if_neg href]
    exact .contentRef _ (Bool.not_eq_true _ ▸ href)

/-! ## The loop -/

/-- A message that is not clean is the only one at which another exception leaves the loop. -/
theorem foldlM_clean {pairs : List (DecryptedMessage × String)} {emitted : Finset String}
    {p : Progress} (hemitted : p.emitted = emitted) : Clean loads float config emitted pairs ↔
      ∀ message, pairs.foldlM (normalizeMessage loads float config) p ≠
        .error (.valueError message) := by
  induction pairs generalizing emitted p with
  | nil => exact iff_of_true trivial fun _ h => nomatch h
  | cons pair pairs ih =>
      rw [List.foldlM_cons]
      subst hemitted
      have hstep := @normalizeMessage_step loads float config p pair
      generalize normalizeMessage loads float config p pair = r at hstep
      cases hstep with
      | contentRef message href =>
          refine iff_of_false ?_ fun h => h message rfl
          simp [Clean, href]
      | refused e href hfields =>
          refine iff_of_true ?_ fun _ h => nomatch h
          simp [Clean, href, hfields]
      | duplicate fields href hfields hmem =>
          simp only [Clean, href, hfields, true_and, Except.ok.injEq, forall_eq', if_pos hmem]
          change _ ↔ ∀ message, pairs.foldlM (normalizeMessage loads float config) _ ≠ _
          exact ih rfl
      | unsupported fields e href hfields hnew hcontrol =>
          refine iff_of_true ?_ fun _ h => nomatch h
          simp [Clean, href, hfields, hnew, hcontrol]
      | control fields control href hfields hnew hcontrol =>
          simp only [Clean, href, hfields, hcontrol, true_and, Except.ok.injEq, forall_eq',
            if_neg hnew, reduceCtorEq, false_imp_iff]
          change _ ↔ ∀ message, pairs.foldlM (normalizeMessage loads float config) _ ≠ _
          exact ih rfl
      | itemRefused fields message href hfields hnew hcontrol hitem =>
          refine iff_of_false ?_ fun h => h message rfl
          simp only [Clean, href, hfields, hcontrol, true_and, Except.ok.injEq, forall_eq',
            if_neg hnew, true_imp_iff]
          exact fun h => hitem h.1
      | item fields href hfields hnew hcontrol hitem =>
          simp only [Clean, href, hfields, hcontrol, true_and, Except.ok.injEq, forall_eq',
            if_neg hnew, true_imp_iff, hitem]
          change _ ↔ ∀ message, pairs.foldlM (normalizeMessage loads float config) _ ≠ _
          exact ih rfl

theorem readFields_names {message : DecryptedMessage} {fields : Fields}
    (h : readFields loads float config message = .ok fields) :
    Names loads float config message fields.msgid := by
  obtain ⟨payload, hpayload, h⟩ := Proc.bind_eq_ok.mp h
  obtain ⟨msgid, hmsgid, h⟩ := Proc.bind_eq_ok.mp h
  obtain ⟨msgtype, -, h⟩ := Proc.bind_eq_ok.mp h
  obtain ⟨occurredAt, -, h⟩ := Proc.bind_eq_ok.mp h
  obtain rfl := Except.ok.inj h
  refine ⟨payload, hpayload, ?_⟩
  unfold requiredString at hmsgid
  split at hmsgid
  next s hget =>
    split at hmsgid
    · cases hmsgid
    · rw [hget, Except.ok.inj hmsgid]
  next => cases hmsgid

/-- A control state is of the message it was made of. -/
theorem controlState_eq_some {seq : ℕ} {fields : Fields} {contentRef : String}
    {control : ArchiveControlState} (h : controlState seq fields contentRef = .ok (some control)) :
    control.seq = seq ∧ control.providerEventId = fields.msgid ∧
      control.contentRef = contentRef := by
  unfold controlState at h
  dsimp only at h
  split_ifs at h
  all_goals first
    | cases h
      exact ⟨rfl, rfl, rfl⟩
    | cases h

theorem Collects.push {seenMsgids : Finset String} {pairs : List (DecryptedMessage × String)}
    {pair : DecryptedMessage × String} {p p' : Progress}
    (h : Collects loads float config seenMsgids pairs p)
    (hnormalize : normalizeMessage loads float config p pair = .ok p') :
    Collects loads float config seenMsgids (pairs ++ [pair]) p' := by
  obtain ⟨places, hplaces, hitems, hcontrols, hduplicates⟩ := h.partitions
  have hpush : ∀ place, Accounts loads float config pair place →
      List.Forall₂ (Accounts loads float config) (pairs ++ [pair]) (places ++ [place]) :=
    fun place hplace => List.rel_append hplaces (.cons hplace .nil)
  have hstep := @normalizeMessage_step loads float config p pair
  rw [hnormalize] at hstep
  cases hstep with
  | duplicate fields href hfields hmem =>
      refine ⟨⟨_, hpush _ (.duplicate (readFields_names hfields)), ?_, ?_, ?_⟩, h.fresh, h.seen,
        h.emitted⟩
      · rw [hitems, List.filterMap_append]
        exact (List.append_nil _).symm
      · rw [hcontrols, List.filterMap_append]
        exact (List.append_nil _).symm
      · rw [hduplicates, List.filterMap_append]
        rfl
  | control fields control href hfields hnew hcontrol =>
      obtain ⟨hseq, hid, hcontent⟩ := controlState_eq_some hcontrol
      refine ⟨⟨_, hpush _ (.control (hid ▸ readFields_names hfields) hseq hcontent), ?_, ?_, ?_⟩,
        h.fresh, h.seen.trans (Finset.subset_insert ..), ?_⟩
      · rw [hitems, List.filterMap_append]
        exact (List.append_nil _).symm
      · rw [hcontrols, List.filterMap_append]
        rfl
      · rw [hduplicates, List.filterMap_append]
        exact (List.append_nil _).symm
      · exact fun item hitem => Finset.mem_insert_of_mem (h.emitted item hitem)
  | item fields href hfields hnew hcontrol hitem =>
      have hplace := hpush (.item ⟨fields.msgid, fields.occurredAt, toString pair.1.seq,
        ⟨fields.msgtype, pair.2, fields.msgtype ∈ mediaMessageTypes⟩⟩)
        (.item (readFields_names hfields) rfl rfl)
      refine ⟨⟨_, hplace, ?_, ?_, ?_⟩, ⟨?_, ?_⟩, h.seen.trans (Finset.subset_insert ..), ?_⟩
      · rw [hitems, List.filterMap_append]
        rfl
      · rw [hcontrols, List.filterMap_append]
        exact (List.append_nil _).symm
      · rw [hduplicates, List.filterMap_append]
        exact (List.append_nil _).symm
      · rw [List.map_append, List.map_singleton, List.nodup_append]
        refine ⟨h.fresh.nodup, List.nodup_singleton _, ?_⟩
        rintro msgid hold _ hlast rfl
        obtain ⟨item, hitem, rfl⟩ := List.mem_map.mp hold
        have hsame : item.providerEventId = fields.msgid := List.mem_singleton.mp hlast
        exact hnew (hsame ▸ h.emitted item hitem)
      · intro item hitem
        rcases List.mem_append.mp hitem with hold | hlast
        · exact h.fresh.unseen item hold
        · rw [List.mem_singleton.mp hlast]
          exact fun hseen => hnew (h.seen hseen)
      · intro item hitem
        rcases List.mem_append.mp hitem with hold | hlast
        · exact Finset.mem_insert_of_mem (h.emitted item hold)
        · rw [List.mem_singleton.mp hlast]
          exact Finset.mem_insert_self ..

theorem foldlM_collects {seenMsgids : Finset String} {pairs : List (DecryptedMessage × String)}
    {p : Progress} (h : pairs.foldlM (normalizeMessage loads float config)
      { emitted := seenMsgids } = .ok p) : Collects loads float config seenMsgids pairs p := by
  have hempty : Collects loads float config seenMsgids [] { emitted := seenMsgids } :=
    ⟨⟨[], .nil, rfl, rfl, rfl⟩, ⟨List.nodup_nil, List.forall_mem_nil _⟩, subset_rfl,
      List.forall_mem_nil _⟩
  have hall := foldlM_flatMap (f := normalizeMessage loads float config) (g := fun pair => [pair])
    (fun _ _ _ _ => Collects.push) hempty h
  rwa [List.nil_append, List.flatMap_singleton'] at hall

/-! ## The order -/

instance : Std.Total precedes where
  total _ _ := Nat.le_total ..

instance : IsTrans (DecryptedMessage × String) precedes where
  trans _ _ _ := Nat.le_trans

theorem orderedPairs_perm (messages : List DecryptedMessage) (contentRefs : List String) :
    (orderedPairs messages contentRefs).Perm (messages.zip contentRefs) :=
  List.perm_insertionSort ..

/-- Sequence numbers that ascend are accepted, and no others. -/
theorem validateDecryptedSequences_eq_ok {messages : List DecryptedMessage}
    {previous : Option ℕ} : validateDecryptedSequences previous messages = .ok () ↔
      (∀ seq ∈ previous, ∀ message ∈ messages, seq < message.seq) ∧
        messages.Pairwise (·.seq < ·.seq) := by
  induction messages generalizing previous with
  | nil => exact iff_of_true rfl ⟨fun _ _ => List.forall_mem_nil _, .nil⟩
  | cons message messages ih =>
      rw [validateDecryptedSequences, List.pairwise_cons]
      by_cases hrollback : previous.any (message.seq ≤ ·) = true
      · rw [if_pos hrollback]
        refine iff_of_false nofun ?_
        rintro ⟨hprevious, -⟩
        obtain ⟨seq, hseq, hle⟩ := (Option.any_eq_true _ _).mp hrollback
        have hlt := hprevious seq hseq message List.mem_cons_self
        exact absurd (of_decide_eq_true hle) (not_le.mpr hlt)
      · rw [if_neg hrollback, ih]
        have hfirst : ∀ seq ∈ previous, seq < message.seq := by
          intro seq hseq
          by_contra hle
          exact hrollback ((Option.any_eq_true _ _).mpr
            ⟨seq, hseq, decide_eq_true (not_lt.mp hle)⟩)
        constructor
        · rintro ⟨hlater, hascending⟩
          refine ⟨?_, hlater message.seq rfl, hascending⟩
          intro seq hseq
          exact List.forall_mem_cons.mpr ⟨hfirst seq hseq, fun later hmem =>
            (hfirst seq hseq).trans (hlater message.seq rfl later hmem)⟩
        · rintro ⟨-, hlater, hascending⟩
          refine ⟨?_, hascending⟩
          rintro seq hseq
          obtain rfl := Option.some.inj hseq
          exact hlater

/-- Messages in order ascend if their sequence numbers are different. -/
theorem orderedPairs_pairwise {messages : List DecryptedMessage} {contentRefs : List String}
    (hlength : contentRefs.length = messages.length) :
    (orderedPairs messages contentRefs).Pairwise (·.1.seq < ·.1.seq) ↔
      (messages.map (·.seq)).Nodup := by
  have hperm := (orderedPairs_perm messages contentRefs).map Prod.fst
  rw [List.map_fst_zip hlength.ge] at hperm
  rw [← (hperm.map (·.seq)).nodup_iff, List.Nodup, List.pairwise_map, List.pairwise_map]
  constructor
  · intro hascending
    exact hascending.imp fun h => ne_of_lt h
  · intro hnodup
    have hsorted : (orderedPairs messages contentRefs).Pairwise precedes :=
      List.pairwise_insertionSort ..
    exact (hsorted.and hnodup).imp fun h => lt_of_le_of_ne h.1 h.2

/-! ## The batch as a whole -/

/-- A batch is normalized or refused as it should be exactly if every message has a reference and,
where the sequence numbers are different, no message that is reached is refused by the constructor of
an item. -/
theorem normalizeBatch_failsClosed_iff {messages : List DecryptedMessage}
    {contentRefs : List String} {seenMsgids : Finset String} :
    FailsClosed loads float config messages contentRefs seenMsgids
        (normalizeBatch loads float config messages contentRefs seenMsgids) ↔
      contentRefs.length = messages.length ∧ ((messages.map (·.seq)).Nodup →
        Clean loads float config seenMsgids (orderedPairs messages contentRefs)) := by
  unfold normalizeBatch
  by_cases hlength : contentRefs.length = messages.length
  swap
  · rw [if_pos hlength]
    exact iff_of_false id fun h => hlength h.1
  rw [if_neg (not_not_intro hlength), and_iff_right hlength, ← orderedPairs_pairwise hlength]
  have hperm := orderedPairs_perm messages contentRefs
  generalize orderedPairs messages contentRefs = pairs at hperm
  have hclean := @foldlM_clean loads float config pairs _ { emitted := seenMsgids } rfl
  rw [hclean]
  dsimp only
  cases hvalid : validateDecryptedSequences none (pairs.map Prod.fst) with
  | error e =>
      refine iff_of_true trivial fun hascending => ?_
      have hok := validateDecryptedSequences_eq_ok.mpr
        ⟨fun _ h => absurd h (Option.not_mem_none _), List.pairwise_map.mpr hascending⟩
      rw [hok] at hvalid
      cases hvalid
  | ok u =>
      have hascending := List.pairwise_map.mp (validateDecryptedSequences_eq_ok.mp hvalid).2
      rw [imp_iff_right hascending]
      cases hfold : pairs.foldlM (normalizeMessage loads float config) { emitted := seenMsgids } with
      | ok p =>
          have hcollects := foldlM_collects hfold
          have hmessages := hperm.map Prod.fst
          rw [List.map_fst_zip hlength.ge] at hmessages
          exact iff_of_true ⟨⟨pairs, hperm, hmessages, hascending, hcollects.partitions⟩,
            hcollects.fresh⟩ fun _ h => nomatch h
      | error e =>
          cases e with
          | archiveError e => exact iff_of_true trivial fun _ h => nomatch h
          | valueError message => exact iff_of_false id fun h => h message rfl

end Reading

/-! ## A batch -/

theorem sampleConfig_bounds : (1 ≤ 4194304 ∧ 4194304 ≤ 16 * 1024 * 1024) ∧ (1 ≤ 32 ∧ 32 ≤ 128) ∧
    1 ≤ 20000 ∧ 20000 ≤ 100000 := by decide

/-- The bounds of an adapter, unless it sets others. -/
def sampleConfig : WeComArchiveConfig := ⟨4194304, 32, 20000, sampleConfig_bounds⟩

/-- A text with the given identifier. -/
def sampleText (msgid : String) : Json :=
  .obj [("msgid", .str msgid), ("msgtime", .int 1786075800000), ("msgtype", .str "text")]

theorem sampleMessage_pos : 0 < 11 := by decide

def sampleMessage : DecryptedMessage := ⟨11, [], sampleMessage_pos⟩

/-- A text whose identifier begins with a blank makes the constructor of an item raise. -/
theorem normalizeBatch_blank : ¬∀ (loads : List UInt8 → Except LoadsError Json)
    (float : {s : List Char // isReal s} → Option ℚ) (config : WeComArchiveConfig)
    (messages : List DecryptedMessage) (contentRefs : List String) (seenMsgids : Finset String),
    contentRefs.length = messages.length → (∀ contentRef ∈ contentRefs,
      isIdentifier 512 contentRef = true) →
    FailsClosed loads float config messages contentRefs seenMsgids
      (normalizeBatch loads float config messages contentRefs seenMsgids) := by
  intro h
  have hclosed := h (fun _ => .ok (sampleText " message-001")) (fun _ => none) sampleConfig
    [sampleMessage] ["object://decrypted/11"] ∅ rfl (by decide)
  have hraise : (normalizeBatch (fun _ => .ok (sampleText " message-001")) (fun _ => none)
      sampleConfig [sampleMessage] ["object://decrypted/11"] ∅).map (fun _ => ()) =
        .error (.valueError "invalid provider_event_id") := by
    decide +kernel
  generalize normalizeBatch _ _ _ _ _ _ = r at hclosed hraise
  cases r with
  | ok batch => cases hraise
  | error e =>
      obtain rfl := Except.error.inj hraise
      exact hclosed

end EsanGbos.Observer.WeCom
