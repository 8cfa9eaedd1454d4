import EsanGbos.Lib.Prog
import EsanGbos.App.Materialization
import EsanGbos.AgentRuntime.MaterializationStore

/-!
# Workers that deliver drafts

A worker claims a row of the outbox, makes an intent of its envelope and posts it to the boundary of
the site; the receipt completes the row. A message may be served at any time after it was sent, more
than once or never, and its response may be lost. Workers may stop at any point, their clocks say
anything, and a call to the database may fail before or after its effect.

## Main definitions

* `Client.apply` — `HttpFrappeDraftClient.apply`.
* `Worker.runOnce` — `MaterializationWorker.run_once`.
* `System`, `exec`, `others` — outbox, sites and messages, and what happens to them.
* `workers` — the interleavings of workers.
-/
namespace EsanGbos.AgentRuntime.Materialization
open Lib

abbrev HttpRequest := App.Materialization.Request

abbrev HttpResponse := App.Materialization.Response

/-! ## Calls -/

/-- `MaterializationContextRequest`. -/
structure ContextRequest where
  siteId : String
  taskId : String
  processingPurpose : String
  proposalId : String
  subjectType : String
  subjectRef : String
  subjectRevision : ℤ

/-- `__post_init__`. -/
def ContextRequest.postInit (r : ContextRequest) : Except Raise Unit := do
  [("site_id", r.siteId, 140), ("task_id", r.taskId, 256),
    ("processing_purpose", r.processingPurpose, 80), ("proposal_id", r.proposalId, 256),
    ("subject_type", r.subjectType, 140), ("subject_ref", r.subjectRef, 256)].forM
      fun (name, value, maximum) =>
        if (strip value).isEmpty || maximum < value.length then
          throw (.validationError s!"materialization context {name} is invalid")
        else return ()
  if r.subjectRevision < 0 then
    throw (.validationError "materialization context subject_revision is invalid")

/-- What a worker asks of its clock, the repository, the resolver and the network. -/
inductive WorkerCall where
  | clock
  | claim (siteId workerId : String) (now : Option Datetime) (leaseDuration : Timedelta)
  | heartbeat (key : String × String) (workerId : String) (expectedAttempt : ℤ)
      (now : Option Datetime) (leaseDuration : Timedelta)
  | acknowledge (key : String × String) (workerId : String) (expectedAttempt : ℤ)
      (now : Option Datetime) (receipt : FrappeDraftReceipt)
  | fail (key : String × String) (workerId : String) (expectedAttempt : ℤ)
      (now retryAt : Option Datetime) (errorCode : String)
  | resolve (request : ContextRequest)
  | send (request : HttpRequest)
  | receive (message : ℕ)

abbrev WorkerCall.Answer (py : Stdlib) : WorkerCall → Type
  | .clock => Option Datetime
  | .claim .. => Option MaterializationClaim
  | .heartbeat .. => Unit
  | .acknowledge .. => FrappeDraftReceipt
  | .fail .. => MaterializationStatus
  | .resolve _ => Option (MaterializationContext py)
  | .send _ => ℕ
  | .receive _ => HttpResponse

variable (py : Stdlib)

abbrev Work := Prog WorkerCall (WorkerCall.Answer py) MaterializationError

/-! ## The client -/

/-- `_header`. -/
def header (value fieldName : String) : Except MaterializationError String :=
  if value = "" ∨ value.toList.any ['\r', '\n'].contains then
    .error (.client s!"a valid Frappe {fieldName} is required")
  else .ok value

/-- `HttpFrappeDraftClient`, with its boundary. -/
structure Client where
  baseUrl : String
  apiKey : String
  apiSecret : String
  authRef : String
  siteId : String
  processingPurpose : Option String

/-- `_resolve_processing_purpose`. -/
def resolveProcessingPurpose (fixed requested : Option String) :
    Except MaterializationError String := do
  match requested with
  | none =>
      match fixed with
      | none => throw (.client "Frappe processing purpose is required")
      | some fixed => return fixed
  | some requested =>
      let requested ← header requested "processing purpose"
      if fixed.any (· ≠ requested) then
        throw (.client "Frappe processing purpose conflicts with fixed scope")
      return requested

/-- `_serialize_request`, which bounds the encoded text. -/
def serializeRequest (payload : Json) : Except MaterializationError Unit :=
  if 262144 < (String.ofList payload.dumps).utf8ByteSize then
    .error (.client "Frappe request exceeded its size budget")
  else .ok ()

/-- The headers of a request. -/
def Client.headers (client : Client) (purpose requestId : String) : List (String × String) := [
  ("Authorization", s!"token {client.apiKey}:{client.apiSecret}"),
  ("Content-Type", "application/json"), ("Host", client.siteId),
  ("X-GBOS-Frappe-Auth-Ref", client.authRef), ("X-Processing-Purpose", purpose),
  ("X-Request-ID", requestId), ("X-Site-ID", client.siteId)]

/-- `_unwrap_message`. -/
def unwrapMessage (response : Json) : Except MaterializationError Json :=
  match response.get? "message" with
  | none | some .null => .ok response
  | some message =>
      if message.isObj then .ok message
      else .error (.client "Frappe response message must be an object")

/-- What `post` makes of a response. -/
def readResponse (response : HttpResponse) : Except MaterializationError Json := do
  if 300 ≤ response.status ∧ response.status < 400 then
    throw (.client "Frappe redirect was rejected")
  unless response.body.isObj do throw (.client "Frappe response must be a JSON object")
  let body ← unwrapMessage response.body
  if response.status = 200 then return body
  let errorCode := ((body.get? "error").bind (Json.get? · "code")).bind Json.str?
  if response.status = 409 ∧ errorCode = some "idempotency_conflict" then
    throw (.raise (.idempotencyConflict "Frappe materialization request body conflict"))
  throw (.frappeClientError "Frappe rejected the governed request" (some response.status) errorCode)

/-- `post`, over the transport. -/
def Client.post (client : Client) (purpose requestId : String) (payload : Json) : Work py Json := do
  let purpose ← .done (header purpose "processing purpose")
  let requestId ← .done (header requestId "request ID")
  let body := Json.obj [("payload", payload)]
  .done (serializeRequest body)
  let message ← (Prog.invoke (WorkerCall.send ⟨client.headers purpose requestId, payload⟩) : Work py ℕ)
  let response ← (Prog.invoke (WorkerCall.receive message) : Work py HttpResponse)
  .done (readResponse response)

/-- `_receipt`. -/
def readReceipt (value : Json) : Except MaterializationError FrappeDraftReceipt :=
  let invalid := MaterializationError.client "Frappe returned an invalid materialization receipt"
  match value.get? "doctype", value.get? "name", value.get? "revision", value.get? "request_id",
      value.get? "request_digest" with
  | some (.str doctype), some (.str name), some (.int revision), some (.str requestId),
      some (.str requestDigest) =>
      (newReceipt doctype name revision requestId requestDigest).mapError fun _ => invalid
  | _, _, _, _, _ => .error invalid

/-- The payload of a request. -/
def Client.payload (client : Client) (purpose requestId requestDigest : String)
    (intent : MaterializationIntent) : Json :=
  .obj [("auth_ref", .str client.authRef), ("intent", intent.document),
    ("processing_purpose", .str purpose), ("request_digest", .str requestDigest),
    ("request_id", .str requestId), ("site_id", .str client.siteId)]

/-- `apply`. -/
def Client.apply (client : Client) (intent : MaterializationIntent)
    (requestId requestDigest processingPurpose : String) : Work py FrappeDraftReceipt := do
  let purpose ← .done (resolveProcessingPurpose client.processingPurpose (some processingPurpose))
  unless isDigest requestDigest ∧ intentDigest py intent = requestDigest do
    .done (.error (.validation "materialization request digest does not match intent"))
  let response ← client.post py purpose requestId
    (client.payload purpose requestId requestDigest intent)
  let receipt ← .done (readReceipt response)
  if response.get? "site_id" ≠ some (.str client.siteId) ∨ receipt.doctype ≠ intent.doctype.value ∨
      receipt.requestId ≠ requestId ∨ receipt.requestDigest ≠ requestDigest then
    .done (.error (.client "Frappe returned a mismatched materialization receipt"))
  return receipt

/-! ## The worker -/

inductive RunStatus where
  | idle | succeeded | retry | deadLetter | leaseLost
deriving DecidableEq

/-- `MaterializationRunResult`. -/
structure RunResult where
  status : RunStatus
  materializationId : Option String
  attempt : Option ℤ
  errorCode : Option String
deriving DecidableEq

/-- `MaterializationWorker`. -/
structure Worker where
  workerId : String
  client : Client
  leaseDuration : Timedelta
  retryDelay : Timedelta
  worker_ok : workerId ≠ "" ∧ 0 < leaseDuration ∧ 0 < retryDelay

def clock : Work py (Option Datetime) := Prog.invoke WorkerCall.clock

def MaterializationClaim.key (claim : MaterializationClaim) : String × String :=
  (claim.siteId, claim.materializationId)

/-- The answers of a run about its claim. -/
def MaterializationClaim.result (claim : MaterializationClaim) (status : RunStatus)
    (errorCode : Option String) : RunResult :=
  ⟨status, some claim.materializationId, some claim.attempt, errorCode⟩

namespace Worker
variable (w : Worker)

def heartbeat (claim : MaterializationClaim) : Work py Unit := do
  let now ← clock py
  Prog.invoke (WorkerCall.heartbeat claim.key w.workerId claim.attempt now w.leaseDuration)

/-- The context that the materializer gets. -/
def contextOf (claim : MaterializationClaim) : Work py (Option (MaterializationContext py)) := do
  if claim.envelope.actionType = "internal.work_item.transition.propose" then return none
  let request : ContextRequest := {
    siteId := claim.siteId
    taskId := claim.envelope.taskId
    processingPurpose := claim.envelope.processingPurpose
    proposalId := claim.proposalId
    subjectType := claim.envelope.subjectType
    subjectRef := claim.envelope.subjectRef
    subjectRevision := claim.envelope.subjectRevision }
  .done (checked request.postInit)
  match ← (Prog.invoke (WorkerCall.resolve request) : Work py (Option (MaterializationContext py))) with
  | none => .done (.error (.validation "controlled materialization team context is unavailable"))
  | some context => return some context

/-- The body of the `try` of `run_once`. -/
def deliver (floatEq : List Char → ℤ → Bool) (claim : MaterializationClaim) : Work py Unit := do
  w.heartbeat py claim
  let context ← contextOf py claim
  let intent ← .done (TrustedMaterializer.materialize py floatEq claim.envelope context)
  let requestDigest := intentDigest py intent
  w.heartbeat py claim
  let receipt ← w.client.apply py intent claim.materializationId requestDigest
    claim.envelope.processingPurpose
  .done (checked (validateReceipt receipt claim.materializationId intent requestDigest))
  let now ← clock py
  let _ ← (Prog.invoke (WorkerCall.acknowledge claim.key w.workerId claim.attempt now receipt) :
    Work py FrappeDraftReceipt)
  return ()

/-- `clock() + retry_delay`; a time without a zone stays one. -/
def retryAt : Work py (Option Datetime) := do
  match ← clock py with
  | none => return none
  | some now =>
      match now.add w.retryDelay with
      | some retryAt => return some retryAt
      | none => .done (.error (.raise .overflowError))

def fail (claim : MaterializationClaim) (errorCode : String) : Work py MaterializationStatus := do
  let now ← clock py
  let retryAt ← w.retryAt py
  Prog.invoke (WorkerCall.fail claim.key w.workerId claim.attempt now retryAt errorCode)

/-- The code that a failure is recorded under. -/
def errorCodeOf : MaterializationError → String
  | .raise (.idempotencyConflict _) => "frappe_body_conflict"
  | _ => "materialization_failed"

/-- The handlers of `run_once`. -/
def recover (claim : MaterializationClaim) : MaterializationError → Work py RunResult
  | .raise (.leaseConflict _) => return claim.result .leaseLost (some "lease_lost")
  | e => do
      match ← (w.fail py claim (errorCodeOf e)).attempt with
      | .ok status =>
          let status := if status = .deadLetter then RunStatus.deadLetter else .retry
          return claim.result status (some (errorCodeOf e))
      | .error (.raise (.leaseConflict _)) => return claim.result .leaseLost (some "lease_lost")
      | .error e' => .done (.error e')

/-- `run_once`. -/
def runOnce (floatEq : List Char → ℤ → Bool) (siteId : String) : Work py RunResult := do
  let now ← clock py
  match ← (Prog.invoke (WorkerCall.claim siteId w.workerId now w.leaseDuration) :
      Work py (Option MaterializationClaim)) with
  | none => return ⟨.idle, none, none, none⟩
  | some claim =>
      match ← (w.deliver py floatEq claim).attempt with
      | .ok () => return claim.result .succeeded none
      | .error e => w.recover py claim e

end Worker

/-! ## Everything together -/

/-- The outbox, the sites, the messages that were sent and the responses to them. -/
structure System where
  store : Store := {}
  sites : String → App.Materialization.Site := fun _ => {}
  messages : List HttpRequest := []
  responses : List (ℕ × HttpResponse) := []

/-- A call to the database that fails does so before or after its effect. -/
inductive Fault where
  | before (e : MaterializationError)
  | after (e : MaterializationError)

/-- What the environment chooses for a call: a fault, the time, the rows that others have locked, the
context of a subject, and the response that arrives. -/
structure Choice (py : Stdlib) where
  fault : Option Fault
  now : Option Datetime
  locked : String × String → Bool
  context : Option (MaterializationContext py)
  arrives : Option ℕ

/-- The answer and the effect, unless there is a fault. -/
def withFault (fault : Option Fault) (s : System) (r : Except MaterializationError α × System) :
    Except MaterializationError α × System :=
  match fault with
  | none => r
  | some (.before e) => (.error e, s)
  | some (.after e) => (.error e, r.2)

/-- An operation on the outbox. -/
def onStore (x : Op α) (s : System) : Except MaterializationError α × System :=
  ((x.run s.store).1, { s with store := (x.run s.store).2 })

/-- The response that arrives for a message, if any. -/
def arrival (s : System) (message : ℕ) (arrives : Option ℕ) : Except MaterializationError HttpResponse :=
  match arrives.bind (s.responses[·]?) with
  | some (message', response) =>
      if message' = message then .ok response else .error (.client "Frappe is unavailable")
  | none => .error (.client "Frappe is unavailable")

/-- The effect of a worker's call. -/
def exec (collation : Collation) {ι : Type} :
    Exec WorkerCall (WorkerCall.Answer py) MaterializationError ι (Choice py) System
  | _, x, .clock, s => withFault x.fault s (.ok x.now, s)
  | _, x, .claim siteId workerId now leaseDuration, s => withFault x.fault s
      (onStore (claimMaterialization collation x.locked siteId workerId now leaseDuration) s)
  | _, x, .heartbeat key workerId attempt now leaseDuration, s => withFault x.fault s
      (onStore (heartbeatMaterialization key workerId attempt now leaseDuration) s)
  | _, x, .acknowledge key workerId attempt now receipt, s => withFault x.fault s
      (onStore (acknowledgeMaterialization key workerId attempt now receipt) s)
  | _, x, .fail key workerId attempt now retryAt errorCode, s => withFault x.fault s
      (onStore (failMaterialization key workerId attempt now retryAt errorCode) s)
  | _, x, .resolve _, s => withFault x.fault s (.ok x.context, s)
  | _, x, .send request, s => withFault x.fault s
      (.ok s.messages.length, { s with messages := s.messages ++ [request] })
  | _, x, .receive message, s => withFault x.fault s (arrival s message x.arrives, s)

/-- What happens besides: a task is completed, another client sends a message, and a site serves one.
-/
inductive Command where
  | enqueue (bundle : Bundle) (now : Timestamptz)
  | post (request : HttpRequest)
  | serve (message : ℕ) (session : App.Materialization.Session) (view : App.Materialization.View)
      (outcome : Except App.Materialization.Failure App.Materialization.Saved)

def others (platform : App.Platform) (sameNumber : List Char → List Char → Bool) :
    Command → System → System
  | .enqueue bundle now, s => (onStore (enqueue py bundle now) s).2
  | .post request, s => { s with messages := s.messages ++ [request] }
  | .serve message session view outcome, s =>
      match s.messages[message]? with
      | none => s
      | some request =>
          let (response, site) := App.Materialization.serve platform sameNumber session view outcome
            request (s.sites session.site)
          { s with
            sites := Function.update s.sites session.site site
            responses := s.responses ++ [(message, response)] }

/-- The interleavings of workers; each runs for the site that its client is configured for. -/
abbrev workers (platform : App.Platform) (collation : Collation) (floatEq : List Char → ℤ → Bool)
    (sameNumber : List Char → List Char → Bool) (ι : Type) [DecidableEq ι] :=
  Pool.machine (fun w : Worker => w.runOnce py floatEq w.client.siteId) (exec py collation (ι := ι))
    (others py platform sameNumber)

/-- Nothing is stored or sent, and no worker runs. -/
def idle (ι : Type) :
    Pool WorkerCall (WorkerCall.Answer py) MaterializationError RunResult ι System :=
  ⟨{}, fun _ => none⟩

end EsanGbos.AgentRuntime.Materialization
