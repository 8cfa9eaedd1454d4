import EsanGbos.Stdlib
import EsanGbos.Lib.Table
import EsanGbos.App.Query

/-!
# The boundary for drafts of agents

An authenticated service posts an intent with a request identifier and its digest. The intent is
checked against the documents of the site and executed, and its receipt is stored under a name that
is made of the site, the service and the request. A request that comes again is answered from there.
Transactions run one after the other, and any of them may fail.

## Main definitions

* `authenticate` — who may post.
* `validateIntent` — what may be posted.
* `runIdempotent` — the execution of an intent, or its stored receipt.
* `applyDraft` — the endpoint.
-/
namespace EsanGbos.App.Materialization
open Lib

/-- What a request can raise. -/
inductive Failure where
  | api (code : String) (status : ℕ)
  | permission
  | doesNotExist
  | duplicateEntry
  | validation
  | other
deriving DecidableEq

def invalidRequest : Failure := .api "invalid_request" 422

def invalidIntent : Failure := .api "invalid_intent" 422

/-! ## Values -/

/-- `_text`. -/
def text (value : Option Json) (maximum : ℕ) : Except Failure String :=
  match value with
  | some (.str s) =>
      if (strip s).isEmpty || maximum < s.length || s.toList.any ['\r', '\n'].contains then
        .error invalidRequest
      else .ok (strip s)
  | _ => .error invalidRequest

/-- `_positive_integer`. -/
def positiveInteger (value : Option Json) : Except Failure ℤ :=
  match value with
  | some (.int i) => if i < 1 then .error invalidRequest else .ok i
  | _ => .error invalidRequest

/-- `_exact_fields`. -/
def exactFields (value : Json) (expected : List String) (code : String) : Except Failure Unit :=
  if value.hasKeys expected then .ok () else .error (.api code 422)

variable (platform : Platform)

/-- A text is parsed. -/
def parsed (value : Option Json) : Option Json :=
  match value with
  | some (.str s) => platform.parseJson s
  | _ => value

/-- `_object`. -/
def object (value : Option Json) (fieldName : String) : Except Failure Json :=
  match (parsed platform value).filter Json.isObj with
  | some value => .ok value
  | none => .error (.api ("invalid_" ++ fieldName) 422)

/-- `_list_of_text`. -/
def listOfText (value : Option Json) (fieldName : String) : Except Failure (List String) :=
  match (parsed platform value).bind Json.strs? with
  | some values =>
      if values ≠ [] ∧ (∀ s ∈ values, s ≠ "") ∧ values.Nodup then .ok values
      else .error (.api ("invalid_" ++ fieldName) 422)
  | none => .error (.api ("invalid_" ++ fieldName) 422)

/-- A value that `x not in table` can look up. -/
def hashable (value : Option Json) : Except Failure Unit :=
  match value with
  | some (.arr _) | some (.obj _) => .error .other
  | _ => .ok ()

/-- `canonical_request_digest`. -/
def canonicalRequestDigest (intent : Json) : String := platform.sha256 intent.dumps

/-- `_canonical_digest`. -/
def canonicalDigest (value : Json) : String := platform.sha256 value.dumpsAscii

/-- An object, with its members in the order of their names. -/
def sorted (members : List (String × Json)) : Json :=
  .obj (members.insertionSort fun m m' => m.1 ≤ m'.1)

/-! ## Authentication -/

/-- What Frappe knows of the request: the method, the configured identities, the user with its roles,
and the active site. -/
structure Session where
  method : String
  identities : Option Json
  actor : String
  roles : List String
  site : String

/-- The headers and the body of a request. -/
structure Request where
  headers : List (String × String)
  payload : Json
deriving DecidableEq

def Request.header (request : Request) (name : String) : Option String :=
  request.headers.lookup name

/-- The credentials of a `token` header: both parts are there. -/
def hasToken (authorization : String) : Bool :=
  match ("token ".toList.isPrefixOf authorization.toList,
      (authorization.toList.drop 6).dropWhile (· ≠ ':')) with
  | (true, ':' :: secret) => (authorization.toList.drop 6).head? ≠ some ':' && !secret.isEmpty
  | _ => false

/-- `_authenticate`. -/
def authenticate (session : Session) (request : Request) (payload : Json) : Except Failure Unit := do
  if session.method ≠ "POST" then throw (.api "method_not_allowed" 405)
  let some identities := session.identities.filter fun ids => ids.isObj && ids ≠ .obj []
    | throw (.api "service_unconfigured" 503)
  unless hasToken ((request.header "Authorization").getD "") ∧ session.actor ≠ "Guest" ∧
      "Agent TrustedMaterializer" ∈ session.roles do
    throw (.api "authentication_required" 401)
  let mismatch := Failure.api "identity_scope_mismatch" 403
  let authRef ← text (payload.get? "auth_ref") 140
  let some identity := (identities.get? authRef).filter
      (Json.hasKeys · ["user", "site_id", "processing_purposes"])
    | throw mismatch
  let siteId ← text (payload.get? "site_id") 140
  let purpose ← text (payload.get? "processing_purpose") 80
  let requestId ← text (payload.get? "request_id") 256
  let some purposes := (identity.get? "processing_purposes").bind Json.strs? | throw mismatch
  unless identity.get? "user" = some (.str session.actor) ∧
      identity.get? "site_id" = some (.str siteId) ∧ siteId = session.site ∧ purpose ∈ purposes ∧
      request.header "X-Site-ID" = some siteId ∧
      request.header "X-Processing-Purpose" = some purpose ∧
      request.header "X-Request-ID" = some requestId ∧
      request.header "X-GBOS-Frappe-Auth-Ref" = some authRef do
    throw mismatch

/-! ## Subjects -/

/-- The fields that the subjects of most kinds have in common. -/
def commonFields : List String := ["origin", "origin_reference", "business_status", "review_status"]

/-- `_ALLOWED_SUBJECT_FIELDS`. -/
def allowedSubjectFields : List (String × List String) := [
  ("GBOS Demand Signal", ["title", "team", "party_profile", "product_brief", "quantity", "uom",
    "needed_by"] ++ commonFields),
  ("GBOS Party Profile", ["party_name", "team", "crm_organization", "contact", "crm_lead",
    "crm_deal"] ++ commonFields),
  ("GBOS Product Brief", ["title", "team", "party_profile", "deal", "description", "target_quantity",
    "target_uom", "target_date"] ++ commonFields),
  ("GBOS Sample Feedback", ["team", "sample_project", "sample_iteration", "summary", "rating",
    "received_on", "received_from_contact"] ++ commonFields),
  ("GBOS Sample Iteration", ["team", "sample_project", "iteration_number", "summary", "started_on",
    "completed_on"] ++ commonFields),
  ("GBOS Sample Project", ["title", "team", "party_profile", "product_brief", "owner_user"] ++
    commonFields),
  ("GBOS Sample Shipment", ["team", "sample_project", "sample_iteration", "carrier",
    "tracking_number", "shipped_on", "delivered_on"] ++ commonFields),
  ("GBOS Sourcing Event", ["title", "team", "demand_signal", "selected_supplier", "owner_user"] ++
    commonFields),
  ("GBOS Work Item", ["title", "team", "assigned_to", "priority", "due_date", "reference_doctype",
    "reference_name", "blocked_reason"] ++ commonFields)]

/-- The documents of the site during a request, with the values that `_json_value` makes of their
fields. -/
structure View where
  /-- `frappe.get_doc` and the check of a permission. -/
  doc : String → String → String → Except Failure Json
  enabled : String → Bool
  roles : String → List String

/-- `doc.get(name)`. -/
def field (doc : Json) (name : String) : Json := (doc.get? name).getD .null

/-- The reviewers of a team that are enabled. -/
def reviewersOf (view : View) (team : Json) : List String :=
  (((team.get? "members").bind Json.arr?).getD []).filterMap (fun member => do
    let user ← (member.get? "user").bind Json.str?
    if member.get? "team_role" = some (.str "Reviewer") ∧ (field member "enabled").toInt = 1 ∧
        user ≠ "" ∧ view.enabled user = true ∧ "Reviewer" ∈ view.roles user then some user
    else none) |>.dedup

/-- What the boundary says of a subject. -/
structure Controlled where
  snapshot : Json
  digest : String
  team : String
  reviewer : String

/-- `_controlled_context`. -/
def controlledContext (view : View) (subjectType subjectRef : String) (revision : ℤ) :
    Except Failure Controlled := do
  let some fields := allowedSubjectFields.lookup subjectType
    | throw (.api "subject_not_allowed" 422)
  let subject ← view.doc "read" subjectType subjectRef
  if (field subject "revision").toInt ≠ revision then throw (.api "revision_conflict" 409)
  let team ← text (subject.get? "team") 140
  let teamDoc ← view.doc "read" "GBOS Team" team
  let [reviewer] := reviewersOf view teamDoc | throw (.api "reviewer_scope_ambiguous" 409)
  let snapshot := sorted ([("doctype", .str subjectType), ("name", .str subjectRef),
    ("revision", .int revision)] ++ fields.map fun name => (name, field subject name))
  return ⟨snapshot, canonicalDigest platform snapshot, team, reviewer⟩

/-! ## Intents -/

/-- `_CREATE_FIELDS`. -/
def createFields : List (String × List String) := [
  ("GBOS Work Item", ["title", "team", "reference_doctype", "reference_name", "origin",
    "origin_reference", "business_status", "review_status"]),
  ("GBOS Review Case", ["title", "team", "assigned_reviewer", "subject_doctype", "subject_name",
    "subject_revision", "subject_payload_sha256", "subject_snapshot", "case_payload_sha256",
    "evidence_refs", "policy_version", "origin", "origin_reference", "business_status",
    "review_status"]),
  ("GBOS Informal Observation", ["subject", "summary_zh", "team", "evidence_refs", "model_name",
    "model_version", "is_official_metric", "origin", "origin_reference", "review_status"])]

/-- `_SUBMIT_FIELDS`. -/
def submitFields : List String := ["name", "origin", "review_status"]

/-- The number a value is compared as. -/
def numberText? : Json → Option (List Char)
  | .int i => some (Json.intText i)
  | .bool b => some (Json.intText b.toNat)
  | .real lexeme => some lexeme.1
  | _ => none

mutual

/-- Python's `==`, where `sameNumber` compares the texts of two numbers. -/
def equal (sameNumber : List Char → List Char → Bool) : Json → Json → Bool
  | .arr xs, .arr ys => equalElements sameNumber xs ys
  | .obj ms, .obj ns => equalMembers sameNumber ms ns
  | .str s, .str t => s = t
  | .null, .null => true
  | x, y =>
      match numberText? x, numberText? y with
      | some m, some n => sameNumber m n
      | _, _ => false

def equalElements (sameNumber : List Char → List Char → Bool) : List Json → List Json → Bool
  | [], [] => true
  | x :: xs, y :: ys => equal sameNumber x y && equalElements sameNumber xs ys
  | _, _ => false

def equalMembers (sameNumber : List Char → List Char → Bool) :
    List (String × Json) → List (String × Json) → Bool
  | [], [] => true
  | (name, x) :: ms, (name', y) :: ns =>
      name = name' && equal sameNumber x y && equalMembers sameNumber ms ns
  | _, _ => false

end

/-- An evidence reference of an observation, which locates itself. -/
def isEvidence (item : Json) : Bool :=
  item.hasKeys ["evidence_ref", "locator_ref"] &&
    ((item.get? "evidence_ref").bind Json.str?).any (· ≠ "") &&
    item.get? "evidence_ref" = item.get? "locator_ref"

def validateWorkItem (view : View) (values : Json) (team : String) : Except Failure Unit := do
  if values.get? "business_status" ≠ some (.str "Open") then throw invalidIntent
  let referenceType ← text (values.get? "reference_doctype") 140
  let referenceName ← text (values.get? "reference_name") 256
  if (allowedSubjectFields.lookup referenceType).isNone then throw invalidIntent
  let reference ← view.doc "read" referenceType referenceName
  if reference.get? "team" ≠ some (.str team) then throw (.api "identity_scope_mismatch" 403)
  let _ ← text (values.get? "title") 140

/-- The model that observations are made by. -/
def observationModel : String := "deepseek-v4-flash"

def validateObservation (values : Json) : Except Failure Unit := do
  if values.get? "model_name" ≠ some (.str observationModel) ∨
      values.get? "model_version" ≠ some (.str observationModel) ∨
      values.get? "is_official_metric" ≠ some (.bool false) then
    throw invalidIntent
  let _ ← text (values.get? "subject") 140
  let _ ← text (values.get? "summary_zh") 2000
  match values.get? "evidence_refs" with
  | some (.arr items) => unless items ≠ [] ∧ items.all isEvidence do throw invalidIntent
  | _ => throw invalidIntent

/-- The document whose digest a review case carries. -/
def casePayload (values : Json) (subjectType subjectName : String) (revision : ℤ)
    (controlled : Controlled) (evidence : List String) : Json :=
  .obj [("assigned_reviewer", field values "assigned_reviewer"), ("evidence_refs", .ofStrs evidence),
    ("policy_version", field values "policy_version"), ("subject_doctype", .str subjectType),
    ("subject_name", .str subjectName), ("subject_payload_sha256", .str controlled.digest),
    ("subject_revision", .int revision), ("subject_snapshot", controlled.snapshot),
    ("team", field values "team"), ("title", field values "title")]

/-- `_validate_review_case`. -/
def validateReviewCase (sameNumber : List Char → List Char → Bool) (view : View) (values : Json)
    (expectedTeam : String) : Except Failure Unit := do
  if values.get? "business_status" ≠ some (.str "Pending") then throw invalidIntent
  let subjectType ← text (values.get? "subject_doctype") 140
  let subjectName ← text (values.get? "subject_name") 256
  let revision ← positiveInteger (values.get? "subject_revision")
  let controlled ← controlledContext platform view subjectType subjectName revision
  let storedSnapshot ← object platform (values.get? "subject_snapshot") "subject_snapshot"
  let evidence ← listOfText platform (values.get? "evidence_refs") "evidence_refs"
  unless expectedTeam = controlled.team ∧
      values.get? "assigned_reviewer" = some (.str controlled.reviewer) ∧
      equal sameNumber storedSnapshot controlled.snapshot = true ∧
      values.get? "subject_payload_sha256" = some (.str controlled.digest) ∧
      values.get? "case_payload_sha256" = some (.str (canonicalDigest platform
        (casePayload values subjectType subjectName revision controlled evidence))) do
    throw invalidIntent
  let _ ← text (values.get? "title") 140
  let _ ← text (values.get? "policy_version") 140

/-- `_validate_create`. -/
def validateCreate (sameNumber : List Char → List Char → Bool) (view : View) (doctype : String)
    (values : Json) : Except Failure Unit := do
  if values.get? "origin" ≠ some (.str "AI") ∨
      values.get? "review_status" ≠ some (.str "AI Draft") then
    throw invalidIntent
  let _ ← text (values.get? "origin_reference") 256
  let team ← text (values.get? "team") 140
  let _ ← view.doc "read" "GBOS Team" team
  if doctype = "GBOS Work Item" then validateWorkItem view values team
  else if doctype = "GBOS Informal Observation" then validateObservation values
  else validateReviewCase platform sameNumber view values team

inductive Operation where
  | create | submit
deriving DecidableEq

/-- An intent that was checked. -/
structure Intent where
  operation : Operation
  doctype : String
  values : Json
deriving DecidableEq

/-- `_validate_intent`. -/
def validateIntent (sameNumber : List Char → List Char → Bool) (view : View) (intent : Json) :
    Except Failure Intent := do
  let values ← object platform (intent.get? "values") "values"
  if intent.get? "operation" = some (.str "create") then
    hashable (intent.get? "doctype")
    let some doctype := (intent.get? "doctype").bind Json.str? | throw invalidIntent
    let some fields := createFields.lookup doctype | throw invalidIntent
    exactFields values fields "invalid_intent"
    validateCreate platform sameNumber view doctype values
    return ⟨.create, doctype, values⟩
  else if intent.get? "operation" = some (.str "submit") then
    hashable (intent.get? "doctype")
    let some doctype := (intent.get? "doctype").bind Json.str? | throw invalidIntent
    unless doctype = "GBOS Work Item" ∨ doctype = "GBOS Review Case" do throw invalidIntent
    exactFields values submitFields "invalid_intent"
    unless values.get? "origin" = some (.str "AI") ∧
        values.get? "review_status" = some (.str "Pending") do
      throw invalidIntent
    let _ ← text (values.get? "name") 256
    return ⟨.submit, doctype, values⟩
  else throw invalidIntent

/-! ## Execution -/

/-- A document after `insert` or `save`. -/
structure Saved where
  name : String
  revision : ℤ

/-- The statuses of which a draft may be submitted. -/
def allowedBusiness (doctype : String) : List String :=
  if doctype = "GBOS Work Item" then ["Open", "In Progress", "Blocked"] else ["Pending"]

/-- The document that a submission changes may be submitted. -/
def checkSubmission (view : View) (doctype : String) (values : Json) : Except Failure Unit := do
  let doc ← view.doc "write" doctype (((values.get? "name").bind Json.str?).getD "")
  unless doc.get? "origin" = some (.str "AI") ∧ doc.get? "review_status" = some (.str "AI Draft") ∧
      ((doc.get? "business_status").bind Json.str?).any (· ∈ allowedBusiness doctype) do
    throw (.api "invalid_transition" 409)

/-- The receipt of an intent. -/
def receiptOf (session : Session) (doctype : String) (saved : Saved) (requestId requestDigest : String) :
    Json :=
  .obj [("doctype", .str doctype), ("name", .str saved.name), ("request_digest", .str requestDigest),
    ("request_id", .str requestId), ("revision", .int saved.revision), ("site_id", .str session.site)]

/-- `_execute_intent`; `outcome` is what the document's `insert` or `save` comes to. -/
def executeIntent (session : Session) (view : View) (outcome : Except Failure Saved) (intent : Intent)
    (requestId requestDigest : String) : Except Failure Json := do
  if intent.operation = .submit then checkSubmission view intent.doctype intent.values
  let saved ← outcome
  return receiptOf session intent.doctype saved requestId requestDigest

/-! ## Requests -/

inductive AuditStatus where
  | authorized | completed
deriving DecidableEq

/-- The `Integration Request` of a request. -/
structure Audit where
  requestId : String
  status : AuditStatus
  data : Json
  output : Option Json
  referenceDoctype : Option Json
  referenceDocname : Option Json
deriving DecidableEq

/-- An intent that was executed, and is committed with its audit row. -/
structure Execution where
  auditName : String
  requestDigest : String
  intent : Intent
  receipt : Json
deriving DecidableEq

structure Site where
  audits : Dict String Audit := Dict.empty
  executions : List Execution := []

abbrev Op := Proc Failure Site

/-- `_audit_name`. -/
def auditName (siteId authRef requestId : String) : String :=
  let digest := platform.sha256
    (siteId.toList ++ '\x00' :: (authRef.toList ++ '\x00' :: requestId.toList))
  "GBOS-MATERIALIZE-" ++ String.ofList (digest.toList.take 44)

/-- What `str` makes of a text of the payload. -/
def payloadText (payload : Json) (name : String) : String :=
  ((payload.get? name).bind Json.str?).getD ""

/-- The audit row before the intent is executed. -/
def authorized (session : Session) (payload : Json) (requestId requestDigest : String) : Audit where
  requestId := requestId
  status := .authorized
  data := .obj [("actor", .str session.actor), ("auth_ref", field payload "auth_ref"),
    ("processing_purpose", field payload "processing_purpose"),
    ("request_digest", .str requestDigest), ("request_id", .str requestId),
    ("site_id", field payload "site_id")]
  output := none
  referenceDoctype := none
  referenceDocname := none

/-- The audit row with the receipt. -/
def Audit.completed (audit : Audit) (receipt : Json) : Audit :=
  { audit with
    status := .completed
    output := some receipt
    referenceDoctype := receipt.get? "doctype"
    referenceDocname := receipt.get? "name" }

/-- The answer to a request that was there before. -/
def replay (existing : Audit) (requestDigest : String) : Except Failure Json :=
  if existing.data.get? "request_digest" ≠ some (.str requestDigest) then
    .error (.api "idempotency_conflict" 409)
  else match existing.status, existing.output.filter Json.isObj with
    | .completed, some output => .ok output
    | _, _ => .error (.api "request_in_progress" 409)

/-- `_run_idempotent`. -/
def runIdempotent (sameNumber : List Char → List Char → Bool) (session : Session) (view : View)
    (outcome : Except Failure Saved) (requestId requestDigest : String) (payload intent : Json) :
    Op Json := do
  let name := auditName platform (payloadText payload "site_id") (payloadText payload "auth_ref")
    requestId
  match (← get).audits.get? name with
  | some existing => replay existing requestDigest
  | none =>
      let intent ← validateIntent platform sameNumber view intent
      let audit := authorized session payload requestId requestDigest
      modify fun s => { s with audits := s.audits.set name audit }
      let receipt ← executeIntent session view outcome intent requestId requestDigest
      modify fun s => {
        audits := s.audits.set name (audit.completed receipt)
        executions := s.executions ++ [⟨name, requestDigest, intent, receipt⟩] }
      return receipt

/-- `_APPLY_FIELDS`. -/
def applyFields : List String :=
  ["site_id", "processing_purpose", "request_id", "auth_ref", "request_digest", "intent"]

/-- `_INTENT_FIELDS`. -/
def intentFields : List String := ["operation", "doctype", "values"]

/-- The checks of `apply_draft`: the request identifier, the digest and the intent. -/
def checkApply (session : Session) (request : Request) (payload : Json) :
    Except Failure (String × String × Json) := do
  exactFields payload applyFields "invalid_materialization_request"
  authenticate session request payload
  let requestId ← text (payload.get? "request_id") 256
  let intent ← object platform (payload.get? "intent") "intent"
  exactFields intent intentFields "invalid_intent"
  match payload.get? "request_digest" with
  | some (.str requestDigest) =>
      unless isDigest requestDigest ∧ canonicalRequestDigest platform intent = requestDigest do
        throw (.api "invalid_request_digest" 422)
      return (requestId, requestDigest, intent)
  | _ => throw (.api "invalid_request_digest" 422)

/-- `apply_draft`, whose transaction is rolled back where it raises. -/
def applyDraft (sameNumber : List Char → List Char → Bool) (session : Session) (view : View)
    (outcome : Except Failure Saved) (request : Request) : Op Json := Proc.atomically do
  let payload ← object platform (some request.payload) "payload"
  let (requestId, requestDigest, intent) ← checkApply platform session request payload
  runIdempotent platform sameNumber session view outcome requestId requestDigest payload intent

/-- Status and code of an error response. -/
def Failure.response : Failure → ℕ × String
  | .api code status => (status, code)
  | .permission => (403, "permission_denied")
  | .doesNotExist => (404, "not_found")
  | .duplicateEntry => (409, "request_in_progress")
  | .validation => (422, "validation_error")
  | .other => (500, "internal_error")

structure Response where
  status : ℕ
  body : Json
deriving DecidableEq

/-- `_endpoint`; Frappe puts what a method returns into a message. -/
def respond : Except Failure Json → Response
  | .ok receipt => ⟨200, .obj [("message", receipt)]⟩
  | .error failure => ⟨failure.response.1, .obj [("message",
      .obj [("error", .obj [("code", .str failure.response.2)])])]⟩

/-- A request is served: its response, and the site after it. -/
def serve (sameNumber : List Char → List Char → Bool) (session : Session) (view : View)
    (outcome : Except Failure Saved) (request : Request) (site : Site) : Response × Site :=
  let (result, site') := (applyDraft platform sameNumber session view outcome request).run site
  (respond result, site')

end EsanGbos.App.Materialization
