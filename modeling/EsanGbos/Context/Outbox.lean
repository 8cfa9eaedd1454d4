import EsanGbos.Lib.Columns
import EsanGbos.Lib.Table
import EsanGbos.Context.Preparation

/-!
# The communication intelligence repository

`PostgresCommunicationIntelligenceRepository` over its tables. Every operation is one transaction,
and transactions run one after the other. The statements name the site that row level security asks
for. The team that the resolver answers and the clock of the database are part of a call.

A record of intelligence is kept with its evidence, invocations, facts and associations, and a draft
with its evidence: they are written together and never changed apart. Columns that have one value in
every row are left out.

## Main definitions

* `DraftRow.isAdmitted`, `DraftRow.mayBecome` — the constraints and the trigger of the outbox.
* `Draft` — a row that satisfies the constraints.
* `publish`, `claimDraft`, `heartbeatDraft`, `acknowledgeDraft`, `failDraft` — the operations.
* `machine` — the repository as a machine that answers calls.
-/
namespace EsanGbos.Context
open Lib Observer

/-! ## The tables -/

/-- A row of `communication_intelligence` with its children, next to its site and identifier. -/
structure Intelligence where
  observationId : String
  idempotencyKey : String
  payloadDigest : String
  summaryZh : String
  originalLanguage : String
  confidence : Json
  teamRef : Option String
  modelName : String
  modelVersion : String
  evidenceRefs : List String
  invocationRefs : List String
  factProposals : List Json
  associationSuggestions : List Json

inductive DraftStatus where
  | pending | running | retry | succeeded | deadLetter
deriving DecidableEq, Repr

/-- A row of `communication_draft_outbox` with its evidence, next to its site. -/
structure DraftRow where
  draftId : String
  intelligenceId : String
  observationId : String
  processingPurpose : String
  subject : String
  summaryZh : String
  teamRef : String
  modelName : String
  modelVersion : String
  idempotencyKey : String
  payloadDigest : String
  evidenceRefs : List String
  status : DraftStatus
  attempt : ℤ
  maxAttempts : ℤ
  nextAttemptAt : Timestamptz
  leaseOwner : Option String
  leaseExpiresAt : Option Timestamptz
  lastErrorCode : Option String
  receipt : Option FrappeDraftReceipt
  createdAt : Timestamptz
  updatedAt : Timestamptz
deriving DecidableEq

/-- The text parameters of a statement. -/
def parameters (texts : List String) : Except Raise Unit :=
  Proc.rejectIf (texts.all isText = false) .dataError

/-- The checks of `communication_intelligence` and its children that a prepared publication has
not passed before. -/
def Intelligence.isAdmitted (row : Intelligence) : Bool :=
  lengthIn 1 256 row.observationId && lengthIn 1 256 row.idempotencyKey &&
    isDigest row.payloadDigest && lengthIn 1 2000 row.summaryZh &&
    lengthIn 1 35 row.originalLanguage && row.teamRef.all (lengthIn 1 256) &&
    row.modelName = approvedModel && lengthIn 1 160 row.modelVersion &&
    row.evidenceRefs.all (lengthIn 1 512) && row.evidenceRefs.length ≤ 100 &&
    row.invocationRefs.all (lengthIn 1 256) && row.invocationRefs.length ≤ 100

namespace DraftRow

/-- The constraint on the lease. -/
def leaseAdmitted (row : DraftRow) : Bool :=
  if row.status = .running then
    1 ≤ row.attempt && row.leaseOwner.isSome && row.leaseExpiresAt.isSome
  else row.leaseOwner.isNone && row.leaseExpiresAt.isNone

/-- The constraint on the receipt, whose columns are written together. -/
def receiptAdmitted (row : DraftRow) : Bool :=
  if row.status = .succeeded then
    row.receipt.any fun r => r.doctype = "GBOS Informal Observation" && 0 ≤ r.revision &&
      r.requestId = row.draftId && isDigest r.requestDigest
  else row.receipt.isNone

/-- The checks of the table. -/
def isAdmitted (row : DraftRow) : Bool :=
  lengthIn 1 256 row.observationId && row.processingPurpose = Context.processingPurpose &&
    lengthIn 1 140 row.subject && lengthIn 1 2000 row.summaryZh && lengthIn 1 256 row.teamRef &&
    row.modelName = approvedModel && lengthIn 1 160 row.modelVersion &&
    lengthIn 1 256 row.idempotencyKey && isDigest row.payloadDigest &&
    0 ≤ row.attempt && row.attempt ≤ row.maxAttempts && 1 ≤ row.maxAttempts &&
    row.maxAttempts ≤ 5 && row.leaseAdmitted && row.receiptAdmitted &&
    row.lastErrorCode.all isSafeCode && row.createdAt ≤ row.updatedAt

/-- The trigger against a change of identity. -/
def sameIdentity (old new : DraftRow) : Bool :=
  new.draftId = old.draftId && new.intelligenceId = old.intelligenceId &&
    new.observationId = old.observationId && new.processingPurpose = old.processingPurpose &&
    new.subject = old.subject && new.summaryZh = old.summaryZh && new.teamRef = old.teamRef &&
    new.modelName = old.modelName && new.modelVersion = old.modelVersion &&
    new.idempotencyKey = old.idempotencyKey && new.payloadDigest = old.payloadDigest &&
    new.maxAttempts = old.maxAttempts && new.createdAt = old.createdAt

/-- The trigger on the transitions. -/
def mayBecome (old new : DraftRow) : Bool :=
  ((old.status = .pending || old.status = .retry || old.status = .running) &&
      new.status = .running && new.attempt = old.attempt + 1) ||
    (old.status = .running && new.attempt = old.attempt &&
      (new.status = .retry || new.status = .succeeded || new.status = .deadLetter)) ||
    (old.status = .running && new.status = .running && new.attempt = old.attempt &&
      new.leaseOwner = old.leaseOwner &&
      new.leaseExpiresAt.any (fun e => old.leaseExpiresAt.any fun e' => e' < e) &&
      new.nextAttemptAt = old.nextAttemptAt && new.lastErrorCode = old.lastErrorCode &&
      new.receipt = old.receipt && old.updatedAt ≤ new.updatedAt)

end DraftRow

/-- A row that the checks of the table admit. -/
structure Draft extends DraftRow where
  admitted : toDraftRow.isAdmitted = true

structure Tables where
  intelligence : Dict (String × String) Intelligence := Dict.empty
  drafts : Dict (String × String) Draft := Dict.empty

abbrev Op := Proc Raise Tables

/-- A row that is inserted. -/
def admitted (row : DraftRow) : Except Raise Draft :=
  if h : row.isAdmitted = true then .ok ⟨row, h⟩ else .error .integrityError

/-- A row that is updated. -/
def moved (old : Draft) (new : DraftRow) : Except Raise Draft :=
  if old.sameIdentity new && old.mayBecome new then admitted new else .error .raiseException

def storeDraft (key : String × String) (draft : Draft) : Op Unit :=
  modify fun s => { s with drafts := s.drafts.set key draft }

/-! ## Publishing -/

section Publish
variable (py : Stdlib)

/-- The identifiers of the children of a record. -/
def childIds (kind intelligenceId : String) (children : List Json) : List String :=
  (children.zipIdx 1).map fun child =>
    stableId py kind [intelligenceId, toString child.2, digest py child.1]

/-- The rows that a publication inserts. -/
def intelligenceOf (publication : Publication) (idempotencyKey : String)
    (prepared : PreparedPublication) : Intelligence :=
  { observationId := publication.observationId
    idempotencyKey
    payloadDigest := prepared.payloadDigest
    summaryZh := publication.summaryZh
    originalLanguage := publication.originalLanguage
    confidence := publication.confidence
    teamRef := prepared.teamRef
    modelName := publication.modelName
    modelVersion := publication.modelVersion
    evidenceRefs := publication.evidenceRefs
    invocationRefs := publication.invocationRefs
    factProposals := publication.factProposals
    associationSuggestions := publication.associationSuggestions }

/-- The statements that insert a record of intelligence and its children. -/
def insertIntelligence (key : String × String) (row : Intelligence) : Op Unit := do
  parameters (row.observationId :: row.summaryZh :: row.originalLanguage :: row.modelVersion ::
    (row.evidenceRefs ++ row.invocationRefs))
  Proc.rejectIf (row.isAdmitted = false ∨
      ¬(childIds py "communication-fact" key.2 row.factProposals).Nodup ∨
      ¬(childIds py "communication-association" key.2 row.associationSuggestions).Nodup)
    Raise.integrityError
  let s ← get
  if (s.intelligence.get? key).isSome ∨ s.intelligence.items.any (fun e => e.1.1 = key.1 &&
      (e.2.observationId = row.observationId || e.2.idempotencyKey = row.idempotencyKey)) then
    throw .integrityError
  set { s with intelligence := s.intelligence.set key row }

/-- The draft that a publication leaves for a team, at the time of the database. -/
def draftOf (publication : Publication) (prepared : PreparedPublication) (team : String)
    (now : Timestamptz) : DraftRow :=
  { draftId := prepared.draftId
    intelligenceId := prepared.intelligenceId
    observationId := publication.observationId
    processingPurpose
    subject := prepared.subject
    summaryZh := publication.summaryZh
    teamRef := team
    modelName := publication.modelName
    modelVersion := publication.modelVersion
    idempotencyKey := "communication-draft:" ++ publication.observationId
    payloadDigest := prepared.draftPayloadDigest
    evidenceRefs := publication.evidenceRefs
    status := .pending
    attempt := 0
    maxAttempts := 5
    nextAttemptAt := now
    leaseOwner := none
    leaseExpiresAt := none
    lastErrorCode := none
    receipt := none
    createdAt := now
    updatedAt := now }

/-- The statements that insert a draft and its evidence. -/
def insertDraft (siteId : String) (row : DraftRow) : Op Unit := do
  let draft ← admitted row
  let s ← get
  if (s.drafts.get? (siteId, row.draftId)).isSome ∨ s.drafts.items.any (fun e => e.1.1 = siteId &&
      (e.2.intelligenceId = row.intelligenceId || e.2.idempotencyKey = row.idempotencyKey)) then
    throw .integrityError
  storeDraft (siteId, row.draftId) draft

/-- `publish`. -/
def publish (scope : TenantScope) (publication : Publication) (idempotencyKey : String)
    (trustedTeamRef : Option String) (now : Timestamptz) : Op Unit := do
  matchScope scope publication
  let prepared ← preparePublication py scope publication idempotencyKey trustedTeamRef
  Proc.atomically do
    let s ← get
    match s.intelligence.items.find? fun e =>
        e.1.1 = scope.siteId && e.2.idempotencyKey = idempotencyKey with
    | some existing =>
        if existing.2.payloadDigest ≠ prepared.payloadDigest then
          throw (.intelligenceConflict "publication idempotency key conflicts with another payload")
    | none =>
        insertIntelligence py (scope.siteId, prepared.intelligenceId)
          (intelligenceOf publication idempotencyKey prepared)
        match prepared.teamRef with
        | none => pure ()
        | some team => insertDraft scope.siteId (draftOf publication prepared team now)

end Publish

/-! ## Claiming -/

/-- The lease of the last attempt has run out. -/
def isSpent (siteId : String) (now : Timestamptz) (e : (String × String) × Draft) : Bool :=
  e.1.1 = siteId && e.2.status = .running && e.2.leaseExpiresAt.any (· ≤ now) &&
    e.2.maxAttempts ≤ e.2.attempt

/-- A draft whose last lease has run out. -/
def buried (row : DraftRow) (now : Timestamptz) : DraftRow :=
  { row with
    status := .deadLetter
    leaseOwner := none
    leaseExpiresAt := none
    lastErrorCode := some "lease_expired_max_attempts"
    updatedAt := now }

/-- The draft may be leased. -/
def isCandidate (siteId : String) (now : Timestamptz) (e : (String × String) × Draft) : Bool :=
  e.1.1 = siteId && e.2.attempt < e.2.maxAttempts &&
    (((e.2.status = .pending || e.2.status = .retry) && e.2.nextAttemptAt ≤ now) ||
      (e.2.status = .running && e.2.leaseExpiresAt.any (· ≤ now)))

/-- The order of the candidates. -/
def comesFirst (collation : Collation) (a b : (String × String) × Draft) : Bool :=
  a.2.nextAttemptAt < b.2.nextAttemptAt || (a.2.nextAttemptAt = b.2.nextAttemptAt &&
    (a.2.createdAt < b.2.createdAt || (a.2.createdAt = b.2.createdAt &&
      collation.le a.2.draftId b.2.draftId)))

def candidate (collation : Collation) (siteId : String) (now : Timestamptz)
    (drafts : Dict (String × String) Draft) : Option ((String × String) × Draft) :=
  ((drafts.items.filter (isCandidate siteId now)).insertionSort
    fun a b => comesFirst collation a b = true).head?

/-- A draft under a new lease. -/
def leased (row : DraftRow) (workerId : String) (leaseExpiresAt now : Timestamptz) : DraftRow :=
  { row with
    status := .running
    attempt := row.attempt + 1
    leaseOwner := some workerId
    leaseExpiresAt := some leaseExpiresAt
    lastErrorCode := none
    updatedAt := now }

/-- What the worker is handed. -/
def claimOf (siteId workerId : String) (row : DraftRow) (leaseExpiresAt : Datetime) :
    CommunicationDraftClaim :=
  { siteId
    draftId := row.draftId
    intelligenceId := row.intelligenceId
    observationId := row.observationId
    processingPurpose := row.processingPurpose
    subject := row.subject
    summaryZh := row.summaryZh
    teamRef := row.teamRef
    evidenceRefs := row.evidenceRefs
    modelName := row.modelName
    modelVersion := row.modelVersion
    payloadDigest := row.payloadDigest
    attempt := row.attempt
    maxAttempts := row.maxAttempts
    leaseOwner := workerId
    leaseExpiresAt }

/-- `claim_draft`. -/
def claimDraft (collation : Collation) (siteId workerId : String) (now : Option Datetime)
    (leaseDuration : Timedelta) : Op (Option CommunicationDraftClaim) := do
  text siteId "site_id" 140
  text workerId "worker_id" 256
  let now ← aware now "now"
  positiveDuration leaseDuration
  Proc.atomically do
    let s ← get
    let drafts ← s.drafts.updateChecked (isSpent siteId now.instant) fun draft =>
      moved draft (buried draft.toDraftRow now.instant)
    set { s with drafts }
    let expiry ← leaseEnd now leaseDuration
    match candidate collation siteId now.instant drafts with
    | none => return none
    | some (key, draft) =>
        let draft ← moved draft (leased draft.toDraftRow workerId expiry.instant now.instant)
        storeDraft key draft
        let claim := claimOf siteId workerId draft.toDraftRow expiry
        claim.check
        return some claim

/-! ## Under a lease -/

/-- The worker holds a live lease of the attempt. -/
def DraftRow.heldBy (row : DraftRow) (workerId : String) (attempt : ℤ) (now : Timestamptz) : Bool :=
  row.status = .running && row.leaseOwner = some workerId && row.attempt = attempt &&
    row.leaseExpiresAt.any (now < ·)

def leaseLost : Raise := .leaseConflict "communication draft lease lost"

/-- The end of the values of a `timestamptz`: the year 294277. -/
def endOfTime : Timestamptz := 9223371331200000000 + 730119 * microsPerDay

/-- `%s + %s` of the database. -/
def timestamptzPlus (now : Timestamptz) (duration : Timedelta) : Except Raise Timestamptz :=
  if now + duration < endOfTime then .ok (now + duration) else .error .dataError

/-- A draft whose lease is longer. -/
def renewed (row : DraftRow) (leaseExpiresAt now : Timestamptz) : DraftRow :=
  { row with
    leaseExpiresAt := some leaseExpiresAt
    updatedAt := now }

/-- `heartbeat_draft`. A lease that ends later already is left as it is. -/
def heartbeatDraft (siteId draftId workerId : String) (expectedAttempt : ℤ)
    (now : Option Datetime) (leaseDuration : Timedelta) : Op Unit := do
  let now ← aware now "now"
  positiveDuration leaseDuration
  Proc.atomically do
    parameters [siteId, draftId, workerId]
    let s ← get
    match s.drafts.get? (siteId, draftId) with
    | none => throw leaseLost
    | some draft =>
        if !draft.heldBy workerId expectedAttempt now.instant then throw leaseLost
        let expiry ← timestamptzPlus now.instant leaseDuration
        if draft.leaseExpiresAt.any (· < expiry) then
          let draft ← moved draft (renewed draft.toDraftRow expiry now.instant)
          storeDraft (siteId, draftId) draft

/-- A draft that has its receipt. -/
def settled (row : DraftRow) (receipt : FrappeDraftReceipt) (now : Timestamptz) : DraftRow :=
  { row with
    status := .succeeded
    leaseOwner := none
    leaseExpiresAt := none
    lastErrorCode := none
    receipt := some receipt
    updatedAt := now }

/-- `acknowledge_draft`. -/
def acknowledgeDraft (siteId draftId workerId : String) (expectedAttempt : ℤ)
    (now : Option Datetime) (receipt : FrappeDraftReceipt) : Op FrappeDraftReceipt := do
  let now ← aware now "now"
  Proc.rejectIf (receipt.requestId ≠ draftId ∨ receipt.doctype ≠ "GBOS Informal Observation")
    (Raise.intelligenceConflict "invalid communication draft receipt")
  Proc.atomically do
    parameters [siteId, draftId]
    let s ← get
    match s.drafts.get? (siteId, draftId) with
    | none => throw (.intelligenceConflict "communication draft is absent")
    | some draft =>
        if draft.status = .succeeded then
          if draft.receipt ≠ some receipt then
            throw (.intelligenceConflict "communication draft receipt replay conflicts")
          return receipt
        parameters [receipt.name, workerId]
        Proc.rejectIf (2 ^ 31 ≤ receipt.revision) Raise.dataError
        if !draft.heldBy workerId expectedAttempt now.instant then throw leaseLost
        let draft ← moved draft (settled draft.toDraftRow receipt now.instant)
        storeDraft (siteId, draftId) draft
        return receipt

/-- A draft whose attempt has failed. -/
def failed (row : DraftRow) (retryAt : Timestamptz) (errorCode : String) (now : Timestamptz) :
    DraftRow :=
  { row with
    status := if row.maxAttempts ≤ row.attempt then .deadLetter else .retry
    leaseOwner := none
    leaseExpiresAt := none
    nextAttemptAt := retryAt
    lastErrorCode := some errorCode
    updatedAt := now }

/-- `fail_draft`. -/
def failDraft (siteId draftId workerId : String) (expectedAttempt : ℤ)
    (now retryAt : Option Datetime) (errorCode : String) : Op DraftStatus := do
  let now ← aware now "now"
  let retryAt ← aware retryAt "retry_at"
  Proc.rejectIf (retryAt.instant ≤ now.instant ∨ isSafeCode errorCode = false)
    (Raise.valueError "invalid communication draft retry")
  Proc.atomically do
    parameters [siteId, draftId, workerId]
    let s ← get
    match s.drafts.get? (siteId, draftId) with
    | none => throw leaseLost
    | some draft =>
        if !draft.heldBy workerId expectedAttempt now.instant then throw leaseLost
        let draft ← moved draft (failed draft.toDraftRow retryAt.instant errorCode now.instant)
        storeDraft (siteId, draftId) draft
        return draft.status

/-! ## The repository as a machine -/

inductive Call where
  | publish (scope : TenantScope) (publication : Publication) (idempotencyKey : String)
      (trustedTeamRef : Option String) (now : Timestamptz)
  | claimDraft (siteId workerId : String) (now : Option Datetime) (leaseDuration : Timedelta)
  | heartbeatDraft (siteId draftId workerId : String) (expectedAttempt : ℤ)
      (now : Option Datetime) (leaseDuration : Timedelta)
  | acknowledgeDraft (siteId draftId workerId : String) (expectedAttempt : ℤ)
      (now : Option Datetime) (receipt : FrappeDraftReceipt)
  | failDraft (siteId draftId workerId : String) (expectedAttempt : ℤ)
      (now retryAt : Option Datetime) (errorCode : String)

inductive Answer where
  | none
  | claim (claim : Option CommunicationDraftClaim)
  | receipt (receipt : FrappeDraftReceipt)
  | status (status : DraftStatus)

def perform (py : Stdlib) (collation : Collation) : Call → Op Answer
  | .publish scope publication idempotencyKey trustedTeamRef now =>
      (fun _ => .none) <$> publish py scope publication idempotencyKey trustedTeamRef now
  | .claimDraft siteId workerId now leaseDuration =>
      .claim <$> claimDraft collation siteId workerId now leaseDuration
  | .heartbeatDraft siteId draftId workerId expectedAttempt now leaseDuration =>
      (fun _ => .none) <$> heartbeatDraft siteId draftId workerId expectedAttempt now leaseDuration
  | .acknowledgeDraft siteId draftId workerId expectedAttempt now receipt =>
      .receipt <$> acknowledgeDraft siteId draftId workerId expectedAttempt now receipt
  | .failDraft siteId draftId workerId expectedAttempt now retryAt errorCode =>
      .status <$> failDraft siteId draftId workerId expectedAttempt now retryAt errorCode

def machine (py : Stdlib) (collation : Collation) :
    Machine Tables Call (Except Raise Answer) where
  step s c := (perform py collation c).run s

end EsanGbos.Context
