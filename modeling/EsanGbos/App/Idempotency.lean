import EsanGbos.App.Query
import EsanGbos.Lib.Prog
import EsanGbos.Lib.Transactions

/-!
# Idempotent commands of the Frappe app

A command comes with a key. Before it is executed, an audit row is inserted whose name is the digest
of the site and the key; the result is stored there in the same transaction. A command whose row is
there already is answered from it, or refused.

## Main definitions

* `runIdempotent` — the command, as the endpoints run it.
* `endpoint` — a request: the command in a transaction, which is committed or rolled back.
* `machine` — the interleavings of requests, which may stop at any point.
-/
namespace EsanGbos.App.Idempotency
open Lib

/-! ## Commands and audit rows -/

/-- A command with its idempotency key; `actor` is the user of the session. -/
structure Command where
  site : String
  key : String
  command : String
  actor : String
  payload : Json
  apiVersion : String
  requestId : String
deriving DecidableEq

inductive AuditStatus where
  | authorized | completed
deriving DecidableEq

/-- The `Integration Request` of a command; its `data` names the command, the actor, the key and the
digest. -/
structure Audit where
  requestId : String
  integrationRequestService : String
  status : AuditStatus
  command : String
  actor : String
  idempotencyKey : String
  payloadHash : String
  output : Option Json
  referenceDoctype : Option Json
  referenceDocname : Option Json
deriving DecidableEq

/-- Site and name of an audit row. Every site has a database of its own. -/
abbrev Slot := String × String

variable (platform : Platform)

/-- `_audit_name(key)`. -/
def auditName (site key : String) : String :=
  let digest := platform.sha256 (site.toList ++ '\x00' :: key.toList)
  "GBOS-IDEMP-" ++ String.ofList (digest.toList.take 48)

/-- The text whose digest `command_payload_hash` takes. -/
def Command.text (c : Command) : List Char :=
  Json.dumpsAscii (.obj [("actor", .str c.actor), ("command", .str c.command),
    ("payload", c.payload)])

/-- `command_payload_hash(command, actor, payload)`. -/
def commandPayloadHash (c : Command) : String := platform.sha256 c.text

def Command.slot (c : Command) : Slot := (c.site, auditName platform c.site c.key)

/-- The audit row that is inserted before a command is executed. -/
def Command.authorized (c : Command) : Audit where
  requestId := c.requestId
  integrationRequestService := "esan_gbos." ++ c.apiVersion ++ "." ++ c.command
  status := .authorized
  command := c.command
  actor := c.actor
  idempotencyKey := c.key
  payloadHash := commandPayloadHash platform c
  output := none
  referenceDoctype := none
  referenceDocname := none

/-- The row with the result of the command. -/
def Command.completed (c : Command) (result : Json) : Audit :=
  { c.authorized platform with
    status := .completed
    output := some result
    referenceDoctype := result.get? "doctype"
    referenceDocname := result.get? "name" }

/-! ## Calls -/

/-- What a command can raise. -/
inductive FrappeException where
  | bff (error : BffError)
  | permission
  | doesNotExist
  | validation (message : String)
  | duplicateEntry
  | other
deriving DecidableEq

/-- How the database refuses an operation. -/
def FrappeException.ofRefusal : Refusal → FrappeException
  | .duplicate => .duplicateEntry
  | .locked | .ended => .other

/-- `(result, replayed, original_request_id)`. -/
structure Reply where
  result : Json
  replayed : Bool
  requestId : String
deriving DecidableEq

/-- What a request does to the database, and its response. -/
inductive Call where
  | begin
  | load (slot : Slot)
  | insert (slot : Slot) (audit : Audit)
  | execute (c : Command)
  | save (slot : Slot) (audit : Audit)
  | commit
  | rollback
  | respond (c : Command) (response : Except BffError Reply)

abbrev Call.Answer : Call → Type
  | .load _ => Option Audit
  | .execute _ => Json
  | _ => Unit

abbrev Request := Prog Call Call.Answer FrappeException

def load (slot : Slot) : Request (Option Audit) := Prog.invoke (Call.load slot)

def insert (slot : Slot) (audit : Audit) : Request Unit := Prog.invoke (Call.insert slot audit)

/-- `execute()`, the body of the endpoint. -/
def execute (c : Command) : Request Json := Prog.invoke (Call.execute c)

def save (slot : Slot) (audit : Audit) : Request Unit := Prog.invoke (Call.save slot audit)

/-! ## `run_idempotent` -/

def inProgress (message : String) : FrappeException := .bff ⟨"request_in_progress", message, 409⟩

def idempotencyConflict : FrappeException :=
  .bff ⟨"idempotency_conflict", "Idempotency key was already used with a different payload", 409⟩

/-- The row of a command that was there before it. -/
def replay (c : Command) (existing : Audit) : Except FrappeException Reply :=
  if existing.payloadHash ≠ commandPayloadHash platform c then .error idempotencyConflict
  else match existing.status, existing.output with
    | .completed, some output => .ok ⟨output, true, existing.requestId⟩
    | _, _ => .error (inProgress "An identical command is already in progress")

/-- An object has members. -/
def isTruthy : Json → Bool
  | .obj [] => false
  | _ => true

/-- The row of a command that came first, as far as it can be read. -/
def replayDuplicate (c : Command) (existing : Option Audit) : Except FrappeException Reply :=
  match existing with
  | some existing =>
      match existing.output with
      | some output =>
          if existing.payloadHash = commandPayloadHash platform c ∧ isTruthy output then
            .ok ⟨output, true, existing.requestId⟩
          else .error (inProgress "Command is already in progress")
      | none => .error (inProgress "Command is already in progress")
  | none => .error (inProgress "Command is already in progress")

/-- The part of `run_idempotent` for a command without a row. -/
def insertAndExecute (c : Command) : Request Reply := do
  match ← (insert (c.slot platform) (c.authorized platform)).attempt with
  | .error .duplicateEntry =>
      let existing ← load (c.slot platform)
      .done (replayDuplicate platform c existing)
  | .error error => .done (.error error)
  | .ok _ =>
      let result ← execute c
      save (c.slot platform) (c.completed platform result)
      return ⟨result, false, c.requestId⟩

/-- `run_idempotent`. -/
def runIdempotent (c : Command) : Request Reply := do
  match ← load (c.slot platform) with
  | some existing => .done (replay platform c existing)
  | none => insertAndExecute platform c

/-- The answer of `bff_endpoint` to an exception. -/
def FrappeException.failure : FrappeException → BffError
  | .bff error => error
  | .permission => ⟨"permission_denied", "Permission denied", 403⟩
  | .doesNotExist => ⟨"not_found", "Record not found", 404⟩
  | .validation message => ⟨"validation_error", message, 422⟩
  | .duplicateEntry | .other => ⟨"internal_error", "Internal server error", 500⟩

/-- A POST request: what it raises rolls the transaction back, else it is committed. -/
def endpoint (c : Command) : Request Unit := do
  (Prog.invoke Call.begin : Request Unit)
  match ← (runIdempotent platform c).attempt with
  | .ok reply =>
      (Prog.invoke Call.commit : Request Unit)
      Prog.invoke (Call.respond c (.ok reply))
  | .error error =>
      (Prog.invoke Call.rollback : Request Unit)
      Prog.invoke (Call.respond c (.error error.failure))

/-! ## Requests that share the database -/

/-- An execution of a command by a request, with what it returned or raised. Its effects are
committed with its entry. -/
structure Execution (ι : Type) where
  call : ι
  command : Command
  outcome : Except FrappeException Json

/-- The database, what each request found committed when it began, the executions so far, rolled
back or not, and the responses. -/
structure Requests (ι : Type) where
  store : Store ι Slot Audit (Execution ι)
  opened : ι → Option (Slot → Option Audit)
  executions : List (ι × Command)
  responses : ι → Option (Command × Except BffError Reply)

variable {ι : Type} [DecidableEq ι] (isolation : Isolation)

/-- Puts the answer of the database and what it leaves into the shared state. -/
def Requests.after (s : Requests ι) (r : Except Refusal Unit × Store ι Slot Audit (Execution ι)) :
    Except FrappeException Unit × Requests ι :=
  (r.1.mapError FrappeException.ofRefusal, { s with store := r.2 })

/-- The effect of a call of a request; `outcome` is what an execution returns or raises. -/
def exec : Exec Call Call.Answer FrappeException ι (Except FrappeException (List (String × Json)))
    (Requests ι)
  | i, _, .begin, s =>
      match s.store.begin i with
      | (.ok _, store) => (.ok (), { s with
          store := store
          opened := Function.update s.opened i (some s.store.rows) })
      | (.error e, _) => (.error (.ofRefusal e), s)
  | i, _, .load slot, s => ((s.store.read i isolation slot).mapError .ofRefusal, s)
  | i, _, .insert slot audit, s => s.after (s.store.insert i slot audit)
  | i, outcome, .execute c, s =>
      let outcome := outcome.map Json.obj
      match s.store.record i ⟨i, c, outcome⟩ with
      | (.ok _, store) => (outcome, { s with
          store := store
          executions := s.executions ++ [(i, c)] })
      | (.error e, _) => (.error (.ofRefusal e), s)
  | i, _, .save slot audit, s => s.after (s.store.write i slot audit)
  | i, _, .commit, s => s.after (s.store.commit i)
  | i, _, .rollback, s => s.after (s.store.rollback i)
  | i, _, .respond c response, s =>
      match s.store.status i with
      | .closed => (.ok (), { s with
          responses := Function.update s.responses i (some (c, response)) })
      | _ => (.error .other, s)

/-- The request stops. -/
def stop (i : ι) (s : Requests ι) : Requests ι := { s with store := s.store.stop i }

/-- The interleavings of requests. -/
abbrev machine := Pool.machine (endpoint platform) (exec (ι := ι) isolation) stop

/-- Nothing is stored, and no request has begun. -/
def initial : Pool Call Call.Answer FrappeException Unit ι (Requests ι) :=
  ⟨⟨⟨fun _ => none, [], fun _ => none, fun _ => .fresh⟩, fun _ => none, [], fun _ => none⟩,
    fun _ => none⟩

end EsanGbos.App.Idempotency
