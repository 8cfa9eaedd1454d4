import EsanGbos.Lib.Table
import EsanGbos.Stdlib

/-!
# Media jobs

A submission asks for the transcription of an upload whose receipt it carries. Datetimes are
compared by their instants, and kept as instants where nothing else of them is read.

## Main definitions

* `MediaJobSubmission`, `MediaJob` — what is submitted, and the job that stands for it.
* `MediaJobSubmission.digest`, `MediaJobSubmission.jobId` — its identities.
* `validateLeaseInput` and its companions — the argument checks.
-/
namespace EsanGbos.MediaRuntime
open Lib

/-- An exception, by its class and text. The last two are the database's: a constraint refuses a
row, or a text cannot be stored. -/
inductive Raise where
  | valueError (message : String)
  | leaseConflict (message : String)
  | overflowError
  | keyError
  | typeError
  | integrityError
  | dataError
deriving DecidableEq, Repr

inductive SourceKind where
  | phone | meeting | file
deriving DecidableEq, Repr

def SourceKind.value : SourceKind → String
  | phone => "phone"
  | meeting => "meeting"
  | file => "file"

structure UploadReceipt where
  receiptId : String
  siteId : String
  purpose : String
  requestId : String
  sourceKind : SourceKind
  mediaType : String
  byteSize : ℤ
  sha256 : String
  objectRef : String
  evidenceRef : String
  receivedAt : Timestamptz
  immutableChecksum : String
  retentionDays : ℤ
  consentBasis : String
deriving DecidableEq, Repr

inductive MediaJobStatus where
  | queued | leased | retry | ready | quarantined | deadLetter
deriving DecidableEq, Repr

/-- The job is over. -/
def MediaJobStatus.isTerminal : MediaJobStatus → Bool
  | ready | quarantined | deadLetter => true
  | queued | leased | retry => false

/-- `_valid_sha256`: a digest, and not the one of the empty text. -/
def isValidSha256 (value : String) : Bool :=
  isDigest value && value != "e3b0c44298fc1c149afbf4c8996fb92427ae41e4649b934ca495991b7852b855"

structure MediaArtifactProof where
  ffmpegOutputSha256 : String
  ffmpegExecutableSha256 : String
  whisperModelSha256 : String
  valid : isValidSha256 ffmpegOutputSha256 && isValidSha256 ffmpegExecutableSha256 &&
    isValidSha256 whisperModelSha256
deriving DecidableEq

structure MediaJobSubmission where
  receipt : UploadReceipt
  durationMs : ℤ
  channels : ℤ
  sampleRate : ℤ
  languageHint : Option String
  maxAttempts : ℤ
  durationMs_mem : 1 ≤ durationMs ∧ durationMs ≤ 7200000
  channels_mem : 1 ≤ channels ∧ channels ≤ 8
  sampleRate_mem : 8000 ≤ sampleRate ∧ sampleRate ≤ 192000
  maxAttempts_mem : 1 ≤ maxAttempts ∧ maxAttempts ≤ 100
  languageHint_mem : ∀ hint ∈ languageHint, 2 ≤ hint.toList.length ∧ hint.toList.length ≤ 16

/-- `_receipt_identity`. -/
def receiptIdentity (receipt : UploadReceipt) : Json :=
  .obj [("byte_size", .int receipt.byteSize), ("consent_basis", .str receipt.consentBasis),
    ("evidence_ref", .str receipt.evidenceRef), ("media_type", .str receipt.mediaType),
    ("object_ref", .str receipt.objectRef), ("purpose", .str receipt.purpose),
    ("request_id", .str receipt.requestId), ("retention_days", .int receipt.retentionDays),
    ("sha256", .str receipt.sha256), ("site_id", .str receipt.siteId),
    ("source_kind", .str receipt.sourceKind.value)]

namespace MediaJobSubmission
variable (py : Stdlib) (submission : MediaJobSubmission)

/-- `digest`. -/
def digest : String :=
  py.sha256 <| Json.dumpsAscii <| .obj [("channels", .int submission.channels),
    ("duration_ms", .int submission.durationMs),
    ("language_hint", Json.ofOption .str submission.languageHint),
    ("max_attempts", .int submission.maxAttempts),
    ("receipt", receiptIdentity submission.receipt), ("sample_rate", .int submission.sampleRate)]

end MediaJobSubmission

/-- `_job_id`, which reads no more of a submission than its site and request. -/
def jobIdOf (py : Stdlib) (siteId requestId : String) : String :=
  let document := "\x1f".intercalate ["local-media-job-v1", siteId, requestId]
  "media-" ++ String.ofList ((py.sha256 document.toList).toList.take 32)

structure MediaJob where
  jobId : String
  siteId : String
  requestId : String
  receipt : UploadReceipt
  durationMs : ℤ
  channels : ℤ
  sampleRate : ℤ
  languageHint : Option String
  submissionDigest : String
  status : MediaJobStatus
  dueAt : Timestamptz
  attempt : ℤ
  maxAttempts : ℤ
  fencingToken : ℤ
  leaseOwner : Option String
  leaseExpiresAt : Option Timestamptz
  reasonCodes : List String
  transcriptRef : Option String
  artifactProof : Option MediaArtifactProof
  createdAt : Timestamptz
  updatedAt : Timestamptz
deriving DecidableEq

/-! ## Checks -/

/-- `_require_aware`; a naive datetime is no value. -/
def requireAware (value : Option Datetime) : Except Raise Datetime :=
  match value with
  | some d => .ok d
  | none => .error (.valueError "aware_datetime_required")

/-- `now + duration`. -/
def plus (now : Datetime) (duration : Timedelta) : Except Raise Datetime :=
  match now.add duration with
  | some d => .ok d
  | none => .error .overflowError

/-- `_validate_lease_input`. -/
def validateLeaseInput (siteId workerId : String) (now : Option Datetime)
    (leaseDuration : Timedelta) : Except Raise Datetime :=
  match requireAware now with
  | .error e => .error e
  | .ok now =>
      if siteId = "" ∨ workerId = "" then .error (.valueError "lease_identity_required")
      else if leaseDuration ≤ 0 then .error (.valueError "lease_duration_invalid")
      else .ok now

/-- A match of `_REASON_CODE`. -/
def isReasonCode (code : String) : Bool :=
  match code.toList with
  | [] => false
  | c :: cs => isSlugChar c && cs.length ≤ 79 &&
      cs.all fun c => isSlugChar c || c == '_' || c == '.' || c == '-'

/-- `_validate_reason_codes`. -/
def validateReasonCodes (reasonCodes : List String) : Except Raise Unit :=
  if reasonCodes.length ≤ 32 ∧ reasonCodes.all isReasonCode then .ok ()
  else .error (.valueError "reason_codes_invalid")

/-- The checks of `complete`. -/
def validateCompletion (now : Option Datetime) (status : MediaJobStatus)
    (reasonCodes : List String) : Except Raise Datetime := do
  let now ← requireAware now
  if !status.isTerminal then throw (.valueError "terminal_status_invalid")
  validateReasonCodes reasonCodes
  return now

/-- The checks of `retry`. -/
def validateRetry (now retryAt : Option Datetime) (reasonCodes : List String) :
    Except Raise (Datetime × Datetime) := do
  let now ← requireAware now
  let retryAt ← requireAware retryAt
  if retryAt.instant ≤ now.instant then throw (.valueError "retry_at_invalid")
  validateReasonCodes reasonCodes
  return (now, retryAt)

/-! ## Values of a job -/

/-- The job that `enqueue` makes of a submission. -/
def newJob (py : Stdlib) (submission : MediaJobSubmission) (now : Datetime) : MediaJob :=
  { jobId := jobIdOf py submission.receipt.siteId submission.receipt.requestId
    siteId := submission.receipt.siteId
    requestId := submission.receipt.requestId
    receipt := submission.receipt
    durationMs := submission.durationMs
    channels := submission.channels
    sampleRate := submission.sampleRate
    languageHint := submission.languageHint
    submissionDigest := submission.digest py
    status := .queued
    dueAt := now.instant
    attempt := 0
    maxAttempts := submission.maxAttempts
    fencingToken := 0
    leaseOwner := none
    leaseExpiresAt := none
    reasonCodes := []
    transcriptRef := none
    artifactProof := none
    createdAt := now.instant
    updatedAt := now.instant }

namespace MediaJob
variable (job : MediaJob)

/-- A job that is leased for its next attempt. -/
def claimed (workerId : String) (now expiry : Datetime) : MediaJob :=
  { job with
    status := .leased
    attempt := job.attempt + 1
    fencingToken := job.fencingToken + 1
    leaseOwner := some workerId
    leaseExpiresAt := some expiry.instant
    updatedAt := now.instant }

def renewed (now expiry : Datetime) : MediaJob :=
  { job with leaseExpiresAt := some expiry.instant, updatedAt := now.instant }

def completed (status : MediaJobStatus) (reasonCodes : List String)
    (transcriptRef : Option String) (artifactProof : Option MediaArtifactProof) (now : Datetime) :
    MediaJob :=
  { job with
    status, leaseOwner := none, leaseExpiresAt := none, reasonCodes, transcriptRef
    artifactProof, updatedAt := now.instant }

/-- A job after a failed attempt: it waits, or has used its attempts up. -/
def retried (retryAt : Datetime) (reasonCodes : List String) (now : Datetime) : MediaJob :=
  { job with
    status := if job.attempt < job.maxAttempts then .retry else .deadLetter
    dueAt := if job.attempt < job.maxAttempts then retryAt.instant else job.dueAt
    leaseOwner := none, leaseExpiresAt := none, reasonCodes, updatedAt := now.instant }

def reaped (now : Datetime) : MediaJob :=
  { job with
    status := .deadLetter, leaseOwner := none, leaseExpiresAt := none
    reasonCodes := ["lease_expired_max_attempts"], updatedAt := now.instant }

end MediaJob

end EsanGbos.MediaRuntime
