import EsanGbos.Lib.Columns
import EsanGbos.MediaRuntime.Repository

/-!
# The repository in PostgreSQL

`PostgresMediaJobRepository` over the table `local_media_jobs`. Every operation is one transaction,
and a statement that a check of the table refuses undoes it. The statements name the site that row
level security asks for and leave the columns alone that the trigger protects.

Texts with a null character cannot be stored, neither in a text column nor in a `jsonb` one.

## Main definitions

* `MediaRow`, `MediaRow.isAdmitted` — a row and the checks of the table.
* `Postgres.jobFromRow` — the job that a row stands for.
* `Postgres.enqueue`, `Postgres.claim`, `Postgres.heartbeat`, `Postgres.complete`,
  `Postgres.retry` — the operations.
* `Postgres.machine` — the repository as a machine that answers calls.
-/
namespace EsanGbos.MediaRuntime
open Lib

/-- A row of `local_media_jobs`, next to its site and identifier. -/
structure MediaRow where
  requestId : String
  receipt : Json
  workSpec : Json
  submissionDigest : String
  status : MediaJobStatus
  dueAt : Timestamptz
  attempt : ℤ
  maxAttempts : ℤ
  fencingToken : ℤ
  leaseOwner : Option String
  leaseExpiresAt : Option Timestamptz
  reasonCodes : Json
  transcriptRef : Option String
  artifactProof : Option Json
  createdAt : Timestamptz
  updatedAt : Timestamptz

/-- The rows of the table, under the primary key `(site_id, job_id)`. -/
abbrev MediaTable := Dict (String × String) MediaRow

/-- A row with its key. -/
abbrev MediaEntry := (String × String) × MediaRow

abbrev PgOp := Proc Raise MediaTable

/-- The condition `char_length(s) BETWEEN 1 AND maximum`. -/
def lengthWithin (maximum : ℕ) (s : String) : Bool :=
  1 ≤ s.toList.length && s.toList.length ≤ maximum

namespace MediaRow
variable (row : MediaRow)

/-- The checks of the columns that no update writes. -/
def hasValidInput (key : String × String) : Bool :=
  lengthWithin 140 key.1 && lengthWithin 256 key.2 && lengthWithin 256 row.requestId &&
    row.receipt.isObj && row.workSpec.isObj && isDigest row.submissionDigest &&
    1 ≤ row.maxAttempts && row.maxAttempts ≤ 100

/-- The check that audio is ready with a transcript and a proof. Without a media type its condition
is null, which refuses nothing. -/
def hasValidArtifact : Bool :=
  row.status ≠ .ready ||
    match row.receipt.get? "media_type" with
    | none => true
    | some (.str mediaType) => !"audio/".toList.isPrefixOf mediaType.toList ||
        row.transcriptRef.isSome && row.artifactProof.any fun proof =>
          ["ffmpeg_output_sha256", "ffmpeg_executable_sha256", "whisper_model_sha256"].all
            fun name => (proof.get? name).isSome
    | some _ => false

/-- The other checks. -/
def hasValidState : Bool :=
  0 ≤ row.attempt && 0 ≤ row.fencingToken && row.leaseOwner.all (lengthWithin 256) &&
    row.reasonCodes.arr?.isSome && row.transcriptRef.all (lengthWithin 512) &&
    row.artifactProof.all Json.isObj && row.attempt ≤ row.maxAttempts &&
    row.attempt ≤ row.fencingToken &&
    (if row.status = .leased then row.leaseOwner.isSome && row.leaseExpiresAt.isSome
      else row.leaseOwner.isNone && row.leaseExpiresAt.isNone) &&
    row.hasValidArtifact

def isAdmitted (key : String × String) : Bool := row.hasValidInput key && row.hasValidState

end MediaRow

/-! ## Documents -/

/-- `_rfc3339`. -/
def rfc3339 (value : Timestamptz) : Except Raise String :=
  match (Datetime.of? value 0).bind timestamp with
  | some text => .ok (String.ofList text)
  | none => .error .overflowError

/-- The document of a receipt that was received at the given time. -/
def contractOf (receipt : UploadReceipt) (receivedAt : String) : Json :=
  .obj [("byte_size", .int receipt.byteSize), ("consent_basis", .str receipt.consentBasis),
    ("evidence_ref", .str receipt.evidenceRef),
    ("immutable_checksum", .str receipt.immutableChecksum), ("media_type", .str receipt.mediaType),
    ("object_ref", .str receipt.objectRef), ("purpose", .str receipt.purpose),
    ("receipt_id", .str receipt.receiptId), ("received_at", .str receivedAt),
    ("request_id", .str receipt.requestId), ("retention_days", .int receipt.retentionDays),
    ("schema_version", .str "1.0"), ("sha256", .str receipt.sha256),
    ("site_id", .str receipt.siteId), ("source_kind", .str receipt.sourceKind.value)]

/-- `to_contract`. -/
def toContract (receipt : UploadReceipt) : Except Raise Json :=
  (rfc3339 receipt.receivedAt).map (contractOf receipt)

/-- `work_spec`. -/
def workSpecOf (durationMs channels sampleRate : ℤ) (languageHint : Option String) : Json :=
  .obj [("channels", .int channels), ("duration_ms", .int durationMs),
    ("language_hint", Json.ofOption .str languageHint), ("sample_rate", .int sampleRate)]

/-- `asdict`. -/
def proofDocument (proof : MediaArtifactProof) : Json :=
  .obj [("ffmpeg_output_sha256", .str proof.ffmpegOutputSha256),
    ("ffmpeg_executable_sha256", .str proof.ffmpegExecutableSha256),
    ("whisper_model_sha256", .str proof.whisperModelSha256)]

/-! ## Rows as jobs

`str()` and `int()` would convert values of other types too, and a naive time would be kept as it
is; no statement writes such a value. -/

/-- `str(value[name])`. -/
def textOf (value : Json) (name : String) : Except Raise String :=
  match value.get? name with
  | none => .error .keyError
  | some (.str s) => .ok s
  | some _ => .error .typeError

/-- `int(value[name])`. -/
def intOf (value : Json) (name : String) : Except Raise ℤ :=
  match value.get? name with
  | none => .error .keyError
  | some (.int i) => .ok i
  | some _ => .error .typeError

def sourceKindOf (value : String) : Except Raise SourceKind :=
  match [SourceKind.phone, .meeting, .file].find? (·.value = value) with
  | some kind => .ok kind
  | none => .error (.valueError ("'" ++ value ++ "' is not a valid SourceKind"))

/-- `MediaArtifactProof(**value)`. -/
def proofOf (value : Json) : Except Raise MediaArtifactProof := do
  if !value.hasKeys ["ffmpeg_output_sha256", "ffmpeg_executable_sha256",
      "whisper_model_sha256"] then throw .typeError
  let output ← textOf value "ffmpeg_output_sha256"
  let executable ← textOf value "ffmpeg_executable_sha256"
  let model ← textOf value "whisper_model_sha256"
  if h : isValidSha256 output && isValidSha256 executable && isValidSha256 model then
    return ⟨output, executable, model, h⟩
  else throw (.valueError "artifact_proof_invalid")

/-- `datetime.fromisoformat`, of the time a receipt was received at. -/
def receivedAtOf (py : Stdlib) (receivedAt : String) : Except Raise Timestamptz :=
  let receivedAt := replace receivedAt.toList ['Z'] "+00:00".toList
  match py.fromisoformat receivedAt with
  | some (some d) => .ok d.instant
  | _ => .error (.valueError ("Invalid isoformat string: '" ++ String.ofList receivedAt ++ "'"))

/-- `_receipt_from_mapping`. -/
def receiptFromMapping (py : Stdlib) (value : Json) : Except Raise UploadReceipt := do
  let receivedAt ← textOf value "received_at"
  let receiptId ← textOf value "receipt_id"
  let siteId ← textOf value "site_id"
  let purpose ← textOf value "purpose"
  let requestId ← textOf value "request_id"
  let sourceKind ← sourceKindOf (← textOf value "source_kind")
  let mediaType ← textOf value "media_type"
  let byteSize ← intOf value "byte_size"
  let sha256 ← textOf value "sha256"
  let objectRef ← textOf value "object_ref"
  let evidenceRef ← textOf value "evidence_ref"
  let receivedAt ← receivedAtOf py receivedAt
  let immutableChecksum ← textOf value "immutable_checksum"
  let retentionDays ← if (value.get? "retention_days").isNone then pure 30
    else intOf value "retention_days"
  let consentBasis ← if (value.get? "consent_basis").isNone then pure "pilot_deferred_review"
    else textOf value "consent_basis"
  return { receiptId, siteId, purpose, requestId, sourceKind, mediaType, byteSize, sha256,
           objectRef, evidenceRef, receivedAt, immutableChecksum, retentionDays, consentBasis }

/-- `_mapping`. -/
def mappingOf (value : Json) (name : String) : Except Raise Json :=
  if value.isObj then .ok value else .error (.valueError (name ++ "_invalid"))

/-- The optional hint of a work specification. -/
def languageHintOf (workSpec : Json) : Except Raise (Option String) :=
  match workSpec.get? "language_hint" with
  | none | some .null => .ok none
  | some _ => (textOf workSpec "language_hint").map some

namespace Postgres

/-- `_job_from_row`. -/
def jobFromRow (py : Stdlib) (e : MediaEntry) : Except Raise MediaJob := do
  let row := e.2
  let receiptValue ← mappingOf row.receipt "receipt"
  let workSpec ← mappingOf row.workSpec "work_spec"
  let some reasonCodes := row.reasonCodes.strs? | throw (.valueError "reason_codes_invalid")
  let artifactProof ← row.artifactProof.mapM fun value => do
    proofOf (← mappingOf value "artifact_proof")
  return {
    jobId := e.1.2
    siteId := e.1.1
    requestId := row.requestId
    receipt := ← receiptFromMapping py receiptValue
    durationMs := ← intOf workSpec "duration_ms"
    channels := ← intOf workSpec "channels"
    sampleRate := ← intOf workSpec "sample_rate"
    languageHint := ← languageHintOf workSpec
    submissionDigest := row.submissionDigest
    status := row.status
    dueAt := row.dueAt
    attempt := row.attempt
    maxAttempts := row.maxAttempts
    fencingToken := row.fencingToken
    leaseOwner := row.leaseOwner
    leaseExpiresAt := row.leaseExpiresAt
    reasonCodes
    transcriptRef := row.transcriptRef
    artifactProof
    createdAt := row.createdAt
    updatedAt := row.updatedAt }

/-! ## Statements -/

mutual
/-- No text of the value has one. -/
def isJsonb : Json → Bool
  | .str s => isText s
  | .arr xs => areJsonb xs
  | .obj ms => areMembers ms
  | _ => true

def areJsonb : List Json → Bool
  | [] => true
  | x :: xs => isJsonb x && areJsonb xs

def areMembers : List (String × Json) → Bool
  | [] => true
  | (k, v) :: ms => isText k && isJsonb v && areMembers ms
end

/-- The parameters of a statement. -/
def parameters (texts : List String) (documents : List Json := []) : Except Raise Unit :=
  if texts.all isText && documents.all isJsonb then .ok () else .error .dataError

/-- `_set_site`. -/
def setSite (siteId : String) : Except Raise Unit :=
  if !lengthWithin 140 siteId then .error (.valueError "site_id_invalid") else parameters [siteId]

/-- A `SELECT` of at most one row. -/
def select (p : MediaEntry → Bool) : PgOp (Option MediaEntry) := return (← get).items.find? p

/-- `UPDATE ... RETURNING`, which answers with the rows it has written. -/
def update (p : MediaEntry → Bool) (f : MediaRow → MediaRow) : PgOp (List MediaEntry) := do
  let updated := ((← get).items.filter p).map fun e => (e.1, f e.2)
  if !updated.all fun e => e.2.isAdmitted e.1 then throw .integrityError
  modify fun rows => rows.updateIf p f
  return updated

def isRequest (siteId requestId : String) (e : MediaEntry) : Bool :=
  e.1.1 = siteId && e.2.requestId = requestId

/-- The checks of an inserted row. -/
def checkRow (key : String × String) (row : MediaRow) : Except Raise Unit :=
  if row.isAdmitted key then .ok () else .error .integrityError

/-- `INSERT ... ON CONFLICT (site_id, request_id) DO NOTHING RETURNING`. -/
def insert (key : String × String) (row : MediaRow) : PgOp (Option MediaEntry) := do
  checkRow key row
  let rows ← get
  match rows.items.find? (isRequest key.1 row.requestId), rows.get? key with
  | some _, _ => return none
  | none, some _ => throw .integrityError
  | none, none =>
      set (rows.set key row)
      return some (key, row)

/-- `_required_lease_row`. -/
def requiredLeaseRow (py : Stdlib) (rows : List MediaEntry) : Except Raise MediaJob :=
  match rows.head? with
  | none => .error (.leaseConflict "lease_lost")
  | some e => jobFromRow py e

/-! ## Runs of the statements -/

section Runs
variable {rows : MediaTable} {p : MediaEntry → Bool} {f : MediaRow → MediaRow}

theorem run_update (h : ∀ e ∈ rows.items, p e = true → (f e.2).isAdmitted e.1 = true) :
    (update p f).run rows =
      (.ok ((rows.items.filter p).map fun e => (e.1, f e.2)), rows.updateIf p f) := by
  have hall : (((rows.items.filter p).map fun e => (e.1, f e.2)).all
      fun e => e.2.isAdmitted e.1) = true := by
    rw [List.all_map, List.all_eq_true]
    intro e he
    obtain ⟨hmem, hp⟩ := List.mem_filter.mp he
    exact h e hmem hp
  rw [update, Proc.run_get_bind]
  simp only [hall]
  rfl

/-- An update by the primary key. -/
theorem run_update_one {key : String × String} {row : MediaRow} (hget : rows.get? key = some row)
    (hp : ∀ e ∈ rows.items, p e = true ↔ e.1 = key) (h : (f row).isAdmitted key = true) :
    (update p f).run rows = (.ok [(key, f row)], rows.set key (f row)) := by
  rw [run_update, Dict.filter_items_eq_singleton hget hp, Dict.updateIf_eq_set f hget hp]
  · rfl
  · intro e he hpe
    have hrow : e = (key, row) :=
      rows.entries.eq_of_key he (Dict.mem_items.mpr hget) ((hp e he).mp hpe)
    rw [hrow]
    exact h

theorem run_update_none (hp : ∀ e ∈ rows.items, p e = false) :
    (update p f).run rows = (.ok [], rows) := by
  rw [run_update, List.filter_eq_nil_iff.mpr, Dict.updateIf_eq_self f hp]
  · rfl
  · intro e he
    rw [hp e he]
    decide
  · intro e he hpe
    rw [hp e he] at hpe
    cases hpe

end Runs

/-! ## Operations -/

section Operations
variable (py : Stdlib)

/-- The row that `enqueue` inserts. -/
def insertedRow (submission : MediaJobSubmission) (receipt : Json) (now : Datetime) : MediaRow :=
  { requestId := submission.receipt.requestId
    receipt
    workSpec := workSpecOf submission.durationMs submission.channels submission.sampleRate
      submission.languageHint
    submissionDigest := submission.digest py
    status := .queued
    dueAt := now.instant
    attempt := 0
    maxAttempts := submission.maxAttempts
    fencingToken := 0
    leaseOwner := none
    leaseExpiresAt := none
    reasonCodes := .arr []
    transcriptRef := none
    artifactProof := none
    createdAt := now.instant
    updatedAt := now.instant }

/-- The job of a row that is inserted, or of the row that its request has already. -/
def insertOrFind (submission : MediaJobSubmission) (key : String × String) (row : MediaRow) :
    PgOp MediaJob := do
  match ← insert key row with
  | some inserted => jobFromRow py inserted
  | none =>
      match ← select (isRequest key.1 row.requestId) with
      | none => throw (.valueError "idempotency_conflict")
      | some found =>
          let existing ← jobFromRow py found
          if existing.submissionDigest ≠ submission.digest py then
            throw (.valueError "idempotency_conflict")
          return existing

/-- `enqueue`. -/
def enqueue (submission : MediaJobSubmission) (now : Option Datetime) : PgOp MediaJob := do
  let now ← requireAware now
  let receipt ← toContract submission.receipt
  let siteId := submission.receipt.siteId
  let requestId := submission.receipt.requestId
  let jobId := jobIdOf py siteId requestId
  let row := insertedRow py submission receipt now
  Proc.atomically do
    setSite siteId
    parameters [jobId, siteId, requestId, submission.digest py] [row.receipt, row.workSpec]
    insertOrFind py submission (siteId, jobId) row

/-- `get`. -/
def get (siteId jobId : String) : PgOp (Option MediaJob) := Proc.atomically do
  setSite siteId
  parameters [siteId, jobId]
  (← select fun e => e.1 = (siteId, jobId)).mapM fun e => jobFromRow py e

/-- `get_by_request`. -/
def getByRequest (siteId requestId : String) : PgOp (Option MediaJob) := Proc.atomically do
  setSite siteId
  parameters [siteId, requestId]
  (← select (isRequest siteId requestId)).mapM fun e => jobFromRow py e

/-! The assignments of the updates. -/

def setReaped (now : Datetime) (row : MediaRow) : MediaRow :=
  { row with
    status := .deadLetter
    leaseOwner := none
    leaseExpiresAt := none
    reasonCodes := .arr [.str "lease_expired_max_attempts"]
    updatedAt := now.instant }

def setClaimed (workerId : String) (now expiry : Datetime) (row : MediaRow) : MediaRow :=
  { row with
    status := .leased
    attempt := row.attempt + 1
    fencingToken := row.fencingToken + 1
    leaseOwner := some workerId
    leaseExpiresAt := some expiry.instant
    updatedAt := now.instant }

def setRenewed (now expiry : Datetime) (row : MediaRow) : MediaRow :=
  { row with leaseExpiresAt := some expiry.instant, updatedAt := now.instant }

def setCompleted (status : MediaJobStatus) (reasonCodes : List String)
    (transcriptRef : Option String) (artifactProof : Option MediaArtifactProof) (now : Datetime)
    (row : MediaRow) : MediaRow :=
  { row with
    status
    leaseOwner := none
    leaseExpiresAt := none
    reasonCodes := Json.ofStrs reasonCodes
    transcriptRef
    artifactProof := artifactProof.map proofDocument
    updatedAt := now.instant }

def setRetried (retryAt : Datetime) (reasonCodes : List String) (now : Datetime)
    (row : MediaRow) : MediaRow :=
  { row with
    status := if row.attempt < row.maxAttempts then .retry else .deadLetter
    dueAt := if row.attempt < row.maxAttempts then retryAt.instant else row.dueAt
    leaseOwner := none
    leaseExpiresAt := none
    reasonCodes := Json.ofStrs reasonCodes
    updatedAt := now.instant }

/-- The condition of the first statement of `claim`. -/
def isExhausted (siteId : String) (now : Timestamptz) (e : MediaEntry) : Bool :=
  e.1.1 = siteId && e.2.status = .leased && e.2.leaseExpiresAt.any (· ≤ now) &&
    e.2.maxAttempts ≤ e.2.attempt

/-- The condition of its candidates. -/
def isCandidate (siteId : String) (now : Timestamptz) (e : MediaEntry) : Bool :=
  e.1.1 = siteId && e.2.attempt < e.2.maxAttempts &&
    (((e.2.status = .queued || e.2.status = .retry) && e.2.dueAt ≤ now) ||
      (e.2.status = .leased && e.2.leaseExpiresAt.any (· ≤ now)))

/-- `ORDER BY due_at, created_at, job_id`. -/
def precedes (collation : Collation) (e e' : MediaEntry) : Prop :=
  e.2.dueAt < e'.2.dueAt ∨ e.2.dueAt = e'.2.dueAt ∧
    (e.2.createdAt < e'.2.createdAt ∨
      e.2.createdAt = e'.2.createdAt ∧ collation.le e.1.2 e'.1.2)

instance (collation : Collation) : DecidableRel (precedes collation) := fun e e' => by
  unfold precedes
  infer_instance

/-- `candidate`. -/
def candidate (collation : Collation) (siteId : String) (now : Timestamptz) (rows : MediaTable) :
    Option MediaEntry :=
  ((rows.items.filter (isCandidate siteId now)).insertionSort (precedes collation)).head?

/-- The second statement of `claim`, and the job that it answers with. -/
def takeCandidate (collation : Collation) (siteId workerId : String) (now expiry : Datetime) :
    PgOp (Option MediaJob) := do
  let chosen := candidate collation siteId now.instant (← getThe MediaTable)
  let claimed ← update (fun e => chosen.any (·.1 = e.1)) (setClaimed workerId now expiry)
  claimed.head?.mapM fun e => jobFromRow py e

/-- `claim`. -/
def claim (collation : Collation) (siteId workerId : String) (now : Option Datetime)
    (leaseDuration : Timedelta) : PgOp (Option MediaJob) := do
  let now ← validateLeaseInput siteId workerId now leaseDuration
  Proc.atomically do
    setSite siteId
    let _ ← update (isExhausted siteId now.instant) (setReaped now)
    let expiry ← plus now leaseDuration
    parameters [siteId, workerId]
    takeCandidate py collation siteId workerId now expiry

/-- The condition of the statements that a lease is needed for. -/
def isLiveLease (siteId jobId workerId : String) (fencingToken : ℤ) (now : Timestamptz)
    (e : MediaEntry) : Bool :=
  e.1 = (siteId, jobId) && (e.2.status = .leased && e.2.leaseOwner = some workerId &&
    e.2.fencingToken = fencingToken && e.2.leaseExpiresAt.any (now < ·))

/-- `heartbeat`. -/
def heartbeat (siteId jobId workerId : String) (fencingToken : ℤ) (now : Option Datetime)
    (leaseDuration : Timedelta) : PgOp MediaJob := do
  let now ← validateLeaseInput siteId workerId now leaseDuration
  Proc.atomically do
    setSite siteId
    let expiry ← plus now leaseDuration
    parameters [siteId, jobId, workerId]
    let renewed ← update (isLiveLease siteId jobId workerId fencingToken now.instant)
      (setRenewed now expiry)
    requiredLeaseRow py renewed

/-- `complete`. -/
def complete (siteId jobId workerId : String) (fencingToken : ℤ) (now : Option Datetime)
    (status : MediaJobStatus) (reasonCodes : List String) (transcriptRef : Option String)
    (artifactProof : Option MediaArtifactProof) : PgOp MediaJob := do
  let now ← validateCompletion now status reasonCodes
  Proc.atomically do
    setSite siteId
    parameters ([siteId, jobId, workerId] ++ transcriptRef.toList)
      (Json.ofStrs reasonCodes :: artifactProof.toList.map proofDocument)
    let completed ← update (isLiveLease siteId jobId workerId fencingToken now.instant)
      (setCompleted status reasonCodes transcriptRef artifactProof now)
    requiredLeaseRow py completed

/-- `retry`. -/
def retry (siteId jobId workerId : String) (fencingToken : ℤ) (now retryAt : Option Datetime)
    (reasonCodes : List String) : PgOp MediaJob := do
  let (now, retryAt) ← validateRetry now retryAt reasonCodes
  Proc.atomically do
    setSite siteId
    parameters [siteId, jobId, workerId] [Json.ofStrs reasonCodes]
    let updated ← update (isLiveLease siteId jobId workerId fencingToken now.instant)
      (setRetried retryAt reasonCodes now)
    requiredLeaseRow py updated

end Operations

/-! ## The repository as a machine -/

def perform (py : Stdlib) (collation : Collation) : Call → PgOp (Option MediaJob)
  | .enqueue submission now => some <$> enqueue py submission now
  | .get siteId jobId => get py siteId jobId
  | .getByRequest siteId requestId => getByRequest py siteId requestId
  | .claim siteId workerId now leaseDuration =>
      claim py collation siteId workerId now leaseDuration
  | .heartbeat siteId jobId workerId fencingToken now leaseDuration =>
      some <$> heartbeat py siteId jobId workerId fencingToken now leaseDuration
  | .complete siteId jobId workerId fencingToken now status reasonCodes transcriptRef
      artifactProof =>
      some <$> complete py siteId jobId workerId fencingToken now status reasonCodes transcriptRef
        artifactProof
  | .retry siteId jobId workerId fencingToken now retryAt reasonCodes =>
      some <$> retry py siteId jobId workerId fencingToken now retryAt reasonCodes

def machine (py : Stdlib) (collation : Collation) :
    Machine MediaTable Call (Except Raise (Option MediaJob)) where
  step s c := (perform py collation c).run s

end Postgres
end EsanGbos.MediaRuntime
