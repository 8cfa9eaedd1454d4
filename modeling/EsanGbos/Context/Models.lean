import EsanGbos.Lib.Decimal
import EsanGbos.Observer.Models

/-!
# Publications, draft claims and receipts

What the observer publishes about a communication, what a draft worker is handed, and what the
draft boundary answers. Each record is checked when it is built.

The summary, the observation and the references of a publication may hold line breaks; the texts of
a claim may not.

## Main definitions

* `cleanText` — a text without outer white space and line breaks.
* `Publication`, `FrappeDraftReceipt` — the records, with their checks as a field.
* `CommunicationDraftClaim.check` — the checks of a claim.
-/
namespace EsanGbos.Context
open Lib Observer

/-- An exception, by its class and text. The last three are the database's: a constraint refuses a
row, a trigger does, or a value cannot be stored. -/
inductive Raise where
  | valueError (message : String)
  | typeError
  | overflowError
  | validationError (message : String)
  | intelligenceConflict (message : String)
  | leaseConflict (message : String)
  | integrityError
  | raiseException
  | dataError
deriving DecidableEq, Repr

/-! ## Checks -/

/-- The text has outer white space, a line break or a null character, is empty or too long. -/
def cleanText (maximum : ℕ) (value : String) : Bool :=
  isIdentifier maximum value && !value.toList.any ['\r', '\n', '\x00'].contains

/-- `_text`. -/
def text (value name : String) (maximum : ℕ) : Except Raise Unit :=
  Proc.rejectIf (cleanText maximum value = false) (.valueError s!"invalid {name}")

/-- `_text` of a member, which may be absent or no text. -/
def textOf (value : Option Json) (name : String) (maximum : ℕ) : Except Raise Unit :=
  Proc.rejectIf ((value.bind Json.str?).any (cleanText maximum) = false)
    (.valueError s!"invalid {name}")

/-- `_optional_text`. -/
def optionalText (value : Option String) (name : String) (maximum : ℕ) : Except Raise Unit :=
  match value with
  | some value => text value name maximum
  | none => .ok ()

/-- The value is a number between 0 and 1. -/
def isConfidence : Json → Bool
  | .int i => 0 ≤ i && i ≤ 1
  | .real x => (Decimal.read x.1).any Decimal.inUnit
  | _ => false

/-- `_aware`; a naive datetime is no value. -/
def aware (value : Option Datetime) (name : String) : Except Raise Datetime :=
  match value with
  | some d => .ok d
  | none => .error (.valueError s!"{name} must be timezone-aware")

/-- `_positive_duration`. -/
def positiveDuration (duration : Timedelta) : Except Raise Unit :=
  Proc.rejectIf (duration ≤ 0) (.valueError "lease_duration must be positive")

/-- `now + lease_duration`. -/
def leaseEnd (now : Datetime) (leaseDuration : Timedelta) : Except Raise Datetime :=
  match now.add leaseDuration with
  | some d => .ok d
  | none => .error .overflowError

/-- A match of `_SAFE_CODE`. -/
def isSafeCode (code : String) : Bool :=
  match code.toList with
  | [] => false
  | c :: cs => c.isLower && cs.length ≤ 79 &&
      cs.all fun c => isSlugChar c || c == '_'

def approvedModel : String := "deepseek-v4-flash"

/-! ## Publications -/

/-- The fields of `ContextIntelligencePublication`. The mapping `model` has the two keys that its
check asks for. -/
structure PublicationFields where
  siteId : String
  observationId : String
  teamRef : Option String
  evidenceRefs : List String
  summaryZh : String
  originalLanguage : String
  confidence : Json
  reviewStatus : String
  factProposals : List Json
  associationSuggestions : List Json
  modelName : String
  modelVersion : String
  invocationRefs : List String

namespace PublicationFields

/-- `ContextIntelligencePublication.__post_init__`. -/
def check (p : PublicationFields) : Except Raise Unit := do
  Proc.rejectIf (isIdentifier 140 p.siteId = false ∨ isIdentifier 256 p.observationId = false)
    (.valueError "invalid Context site binding")
  Proc.rejectIf (p.teamRef.all (cleanText 256) = false)
    (.valueError "invalid Context team binding")
  Proc.rejectIf (p.evidenceRefs = [] ∨ 100 < p.evidenceRefs.length ∨ ¬p.evidenceRefs.Nodup ∨
      p.evidenceRefs.all (isIdentifier 512) = false)
    (.valueError "invalid Context evidence binding")
  Proc.rejectIf (p.summaryZh = "" ∨ 2000 < p.summaryZh.length ∨ p.originalLanguage = "" ∨
      35 < p.originalLanguage.length ∨ isConfidence p.confidence = false ∨
      p.reviewStatus ≠ "AI Draft")
    (.valueError "invalid Context AI Draft projection")
  Proc.rejectIf (p.factProposals = [] ∨ 100 < p.factProposals.length ∨
      p.factProposals.all (fun fact => (fact.get? "status").bind Json.str? = some "proposed") =
        false)
    (.valueError "Context facts must remain proposed")
  Proc.rejectIf (100 < p.associationSuggestions.length)
    (.valueError "invalid Context association suggestions")
  Proc.rejectIf (p.modelName ≠ approvedModel ∨ p.modelVersion = "")
    (.valueError "invalid Context model binding")
  Proc.rejectIf (p.invocationRefs = [] ∨ ¬p.invocationRefs.Nodup ∨
      p.invocationRefs.all (isIdentifier 256) = false)
    (.valueError "invalid Context invocation binding")

end PublicationFields

structure Publication extends PublicationFields where
  valid : toPublicationFields.check.isOk = true

/-! ## Receipts -/

structure ReceiptFields where
  doctype : String
  name : String
  revision : ℤ
  requestId : String
  requestDigest : String
deriving DecidableEq

/-- `FrappeDraftReceipt.__post_init__`. -/
def ReceiptFields.check (r : ReceiptFields) : Except Raise Unit := do
  Proc.rejectIf (r.doctype = "" ∨ 256 < r.doctype.length)
    (.validationError "receipt doctype is invalid")
  Proc.rejectIf (r.name = "" ∨ 256 < r.name.length) (.validationError "receipt name is invalid")
  Proc.rejectIf (r.requestId = "" ∨ 256 < r.requestId.length)
    (.validationError "receipt request_id is invalid")
  Proc.rejectIf (r.revision < 0)
    (.validationError "receipt revision must be a non-negative integer")
  Proc.rejectIf (isDigest r.requestDigest = false)
    (.validationError "receipt request_digest must be SHA-256")

structure FrappeDraftReceipt extends ReceiptFields where
  valid : toReceiptFields.check.isOk = true
deriving DecidableEq

/-! ## Claims -/

def processingPurpose : String := "observation_processing"

structure CommunicationDraftClaim where
  siteId : String
  draftId : String
  intelligenceId : String
  observationId : String
  processingPurpose : String
  subject : String
  summaryZh : String
  teamRef : String
  evidenceRefs : List String
  modelName : String
  modelVersion : String
  payloadDigest : String
  attempt : ℤ
  maxAttempts : ℤ
  leaseOwner : String
  leaseExpiresAt : Datetime

namespace CommunicationDraftClaim

/-- `CommunicationDraftClaim.__post_init__`. -/
def check (c : CommunicationDraftClaim) : Except Raise Unit := do
  text c.siteId "site_id" 140
  text c.draftId "draft_id" 256
  text c.intelligenceId "intelligence_id" 256
  text c.observationId "observation_id" 256
  text c.processingPurpose "processing_purpose" 80
  text c.subject "subject" 140
  text c.summaryZh "summary_zh" 2000
  text c.teamRef "team_ref" 256
  text c.modelName "model_name" 160
  text c.modelVersion "model_version" 160
  text c.leaseOwner "lease_owner" 256
  Proc.rejectIf (c.processingPurpose ≠ Context.processingPurpose)
    (.valueError "invalid draft processing purpose")
  Proc.rejectIf (isDigest c.payloadDigest = false) (.valueError "invalid draft payload digest")
  Proc.rejectIf (c.evidenceRefs = [] ∨ ¬c.evidenceRefs.Nodup)
    (.valueError "invalid draft evidence_refs")
  c.evidenceRefs.forM fun value => text value "evidence_ref" 512
  Proc.rejectIf (¬(1 ≤ c.attempt ∧ c.attempt ≤ c.maxAttempts ∧ c.maxAttempts ≤ 5))
    (.valueError "invalid draft attempt")

end CommunicationDraftClaim
end EsanGbos.Context
