import EsanGbos.AgentRuntime.InvocationAgreement
import EsanGbos.ModelGateway.DeepSeek

/-!
# What an invocation shows, and what it requires

The events of a run, by what they count and cost, and the conditions on a logical call under which
it is to be recorded.

## Main definitions

* `Recorded` — one record, of the cost that was charged and of the attempts that were made.
* `Sound` — what the environment and the request keep.

## Main results

* `parseResponse_reads` — what reading a response raises.
-/
namespace EsanGbos.ModelGateway.DeepSeek
open Lib AgentRuntime

/-- A call of the environment with its answer. -/
abbrev Event := Σ c : ℕ × Op, Except Exn c.2.Answer

/-! ## What a run shows -/

/-- The events of a logical call. -/
def ofCall (attempt : ℕ) (events : List Event) : List Event :=
  events.filter fun e => e.1.1 = attempt

def isPost : Event → Bool
  | ⟨(_, .post _), _⟩ => true
  | _ => false

/-- The attempts that were made. -/
def posts (events : List Event) : ℕ := events.countP isPost

def record? : Event → Option ModelInvocationRecord
  | ⟨(_, .record record), _⟩ => some record
  | _ => none

/-- What the recorder was given. -/
def records (events : List Event) : List ModelInvocationRecord := events.filterMap record?

def charge? : Event → Option CostSnapshot
  | ⟨(_, .settle _ _ cost), .ok _⟩ => some cost
  | ⟨(_, .consume _), .ok cost⟩ => some cost
  | _ => none

/-- What the ledger charged. -/
def charges (events : List Event) : List CostSnapshot := events.filterMap charge?

/-- There is one record, of the one cost that was charged and of all the attempts. -/
def Recorded (events : List Event) : Prop :=
  ∃ record charge, records events = [record] ∧ charges events = [charge] ∧
    auditCost charge = .ok record.cost ∧ record.networkCallCount = posts events

def time? : Event → Option Datetime
  | ⟨(_, .clock), .ok time⟩ => time
  | _ => none

/-- The times of the clock. -/
def times (events : List Event) : List Datetime := events.filterMap time?

def tick? : Event → Option (Option ℚ)
  | ⟨(_, .monotonic), .ok tick⟩ => some tick
  | _ => none

/-- The readings of the monotonic clock. -/
def ticks (events : List Event) : List (Option ℚ) := events.filterMap tick?

def isAmbiguous : Event → Bool
  | ⟨(_, .post _), .error (.transport ambiguous)⟩ => ambiguous
  | ⟨(_, .post _), .ok response⟩ => 500 ≤ response.statusCode
  | _ => false

/-- The attempts that may have been answered. -/
def ambiguous (events : List Event) : ℕ := events.countP isAmbiguous

def isSettled : Event → Bool
  | ⟨(_, .settle ..), .ok _⟩ => true
  | _ => false

def isNan : Event → Bool
  | ⟨(_, .monthlyCostUsd), .ok .nan⟩ => true
  | _ => false

/-- The failure is of the budget or of the network switch, whatever the monthly cost. -/
def Stops : Exn → Prop
  | .gateway failure =>
      failure.errorCode = "network_disabled" ∨ failure.errorCode = "budget_hard_stop"
  | _ => False

def Raises (P : Exn → Prop) : Event → Prop
  | ⟨_, .error e⟩ => P e
  | _ => False

/-! ## What is required -/

/-- The texts of a request fit a record. -/
structure FitsRecord {py : Stdlib} (request : TokenizedModelRequest py) : Prop where
  site : isSite request.siteId = true ∧ request.siteId.length ≤ 140
  versions : request.promptVersion.length ≤ 80 ∧ request.tokenizerVersion.length ≤ 80
  requestId : request.requestId.length ≤ 256
  references : ∀ ref ∈ request.tokenizationReceiptId :: request.evidenceRefs,
    ref ≠ "" ∧ ref.length ≤ 256

/-- An optional text is not empty and not too long. -/
def Within (maximum : ℕ) (text : Option String) : Prop :=
  ∀ value ∈ text, value ≠ "" ∧ value.length ≤ maximum

/-- The failure has a known code and texts that fit a record. -/
structure Failure.Auditable (failure : Failure) : Prop where
  code : failure.errorCode ∈ errorCodes
  observedModel : Within 160 failure.observedModel
  responseId : Within 256 failure.responseId

/-- What is raised is a failure that fits a record. -/
def Recordable : Exn → Prop
  | .gateway failure => failure.Auditable
  | _ => False

/-- The charge has a cost and a catalog that fit a record. -/
structure CostSnapshot.Auditable (cost : CostSnapshot) : Prop where
  amount : ∃ metadata, auditCost cost = .ok metadata
  catalog : Within 80 cost.catalogVersion
  priced : cost.isKnown = true → cost.catalogVersion ≠ none

section Requirements
variable {py : Stdlib} (adapter : Adapter) (request : TokenizedModelRequest py)

def price? : Event → Option Decimal
  | ⟨(_, .calculate ..), answer⟩ => (priceOf adapter answer).toOption
  | _ => none

/-- The prices that are taken. -/
def prices (events : List Event) : List Decimal := events.filterMap (price? adapter)

/-- The answers of the provider that are taken. -/
def output? : Event → Option Json
  | ⟨(_, .post _), .ok response⟩ =>
      if 200 ≤ response.statusCode ∧ response.statusCode < 300 then
        (parseResponse request adapter response).toOption.map (·.output)
      else none
  | _ => none

def outputs (events : List Event) : List Json := events.filterMap (output? adapter request)

/-- The answer, or the exception, leaves a record. -/
def Expected : Event → Prop
  | ⟨(_, op), .ok answer⟩ => match op, answer with
      | .clock, time => time ≠ none
      | .post _, response => 200 ≤ response.statusCode ∧ response.statusCode < 300 →
          parseResponse request adapter response ≠ .error .other
      | .calculate .., price => price ≠ .nan
      | .settle .., _ => adapter.catalogVersion.length ≤ 80
      | .consume _, cost => cost.Auditable
      | _, _ => True
  | ⟨(_, op), .error e⟩ => match op with
      | .clock | .monotonic | .monthlyCostUsd | .consume _ => False
      | .post _ => (∃ ambiguous, e = .transport ambiguous) ∨ Recordable e
      | .calculate .. => e = .arithmetic ∨ Recordable e
      | .ensureCanAttempt _ | .retryDelay _ | .settle .. => Recordable e
      | .count _ | .reserve .. | .release _ | .record _ => True

/-- What the environment and the request keep in a logical call. -/
structure Sound (events : List Event) : Prop where
  fits : FitsRecord request
  expected : ∀ e ∈ events, Expected adapter request e
  surcharge : ∀ worst price, prices adapter events = [worst, price] →
    withSurcharge adapter.context price worst (ambiguous events) ≠ none
  encodable : (∃ e ∈ events, isSettled e) → ∀ output ∈ outputs adapter request events,
    adapter.canEncode output = true
  budget : (∃ e ∈ events, isNan e) → ∃ e ∈ events, Raises Stops e
  clock : (times events).Pairwise fun started completed => started.instant ≤ completed.instant
  latency : (ticks events).Pairwise fun started ended => latencyMs started ended ≠ none

end Requirements

section Append
variable {py : Stdlib} {adapter : Adapter} {request : TokenizedModelRequest py}
  {es es' : List Event}

@[simp] theorem posts_append : posts (es ++ es') = posts es + posts es' := List.countP_append

@[simp] theorem ambiguous_append : ambiguous (es ++ es') = ambiguous es + ambiguous es' :=
  List.countP_append

@[simp] theorem records_append : records (es ++ es') = records es ++ records es' :=
  List.filterMap_append

@[simp] theorem charges_append : charges (es ++ es') = charges es ++ charges es' :=
  List.filterMap_append

@[simp] theorem times_append : times (es ++ es') = times es ++ times es' := List.filterMap_append

@[simp] theorem ticks_append : ticks (es ++ es') = ticks es ++ ticks es' := List.filterMap_append

@[simp] theorem prices_append :
    prices adapter (es ++ es') = prices adapter es ++ prices adapter es' := List.filterMap_append

@[simp] theorem outputs_append : outputs adapter request (es ++ es') =
    outputs adapter request es ++ outputs adapter request es' := List.filterMap_append

end Append

/-! ## Responses -/

section Responses
variable {py : Stdlib} {adapter : Adapter} {request : TokenizedModelRequest py}

/-- What reading a response raises leaves a record and stops nothing, or is no failure. -/
def Reads {α : Type} (x : Except Exn α) : Prop :=
  ∀ e, x = .error e → e = .other ∨ Recordable e ∧ ¬Stops e

theorem reads_reject {α : Type} {message code : String}
    {responseId observedModel finish : Option String} (hcode : code ∈ errorCodes)
    (hstops : code ≠ "network_disabled" ∧ code ≠ "budget_hard_stop")
    (hmodel : Within 160 observedModel) (hid : Within 256 responseId) :
    Reads (reject message code responseId observedModel finish : Except Exn α) := by
  intro e he
  obtain rfl := Except.error.inj he
  refine .inr ⟨⟨hcode, hmodel, hid⟩, ?_⟩
  rintro (hdisabled | hstopped)
  · exact hstops.1 hdisabled
  · exact hstops.2 hstopped

theorem reads_other {α : Type} : Reads (.error .other : Except Exn α) := by
  intro e he
  obtain rfl := Except.error.inj he
  exact .inl rfl

theorem reads_ok {α : Type} {a : α} : Reads (.ok a : Except Exn α) := by
  intro e he
  cases he

theorem within_none {maximum : ℕ} : Within maximum none := by
  intro value hvalue
  cases hvalue

theorem within_model : Within 160 (some model) := by
  intro value hvalue
  obtain rfl := Option.some.inj hvalue
  decide

theorem reads_parseContent {responseId : Option String} {content : String}
    (hid : Within 256 responseId) : Reads (parseContent request adapter responseId content) := by
  have hreject : ∀ {message code : String}, code ∈ errorCodes →
      code ≠ "network_disabled" ∧ code ≠ "budget_hard_stop" →
      Reads (reject message code responseId (some model) (some "stop") : Except Exn Json) :=
    fun hcode hstops => reads_reject hcode hstops within_model hid
  unfold parseContent
  dsimp only
  split
  · exact hreject (by decide) (by decide)
  split
  · exact hreject (by decide) (by decide)
  · exact reads_other
  split
  · exact hreject (by decide) (by decide)
  split
  · exact reads_other
  · exact hreject (by decide) (by decide)
  split
  · exact hreject (by decide) (by decide)
  split
  · exact reads_other
  split
  · exact hreject (by decide) (by decide)
  · exact reads_ok

theorem reads_parseChoice {responseId : Option String} {choice : Json}
    (hid : Within 256 responseId) : Reads (parseChoice request adapter responseId choice) := by
  have hreject : ∀ {message : String} {finish : Option String}, Reads (reject message
      "response_protocol_error" responseId (some model) finish : Except Exn Json) :=
    reads_reject (by decide) (by decide) within_model hid
  unfold parseChoice
  dsimp only
  split
  · exact hreject
  split
  · split
    · exact hreject
    split
    · exact reads_parseContent hid
    · exact hreject
  · exact hreject

/-- An identifier that is kept fits a record. -/
theorem within_filter {value : Option String} :
    Within 256 (value.filter fun s => s ≠ "" ∧ s.length ≤ 256) := by
  intro s hs
  have hs := (Option.filter_eq_some_iff.mp hs).2
  exact of_decide_eq_true hs

/-- What a response raises, and the identifier of one that is taken. -/
theorem parseResponse_reads (response : Response) :
    Reads (parseResponse request adapter response) ∧
      ∀ parsed, parseResponse request adapter response = .ok parsed →
        Within 256 parsed.responseId := by
  unfold parseResponse
  split
  · exact ⟨reads_reject (by decide) (by decide) within_none within_none, fun _ h => by cases h⟩
  · exact ⟨reads_other, fun _ h => by cases h⟩
  next body _ =>
    dsimp only
    have hid := @within_filter ((body.get? "id").bind Json.str?)
    split
    · exact ⟨reads_reject (by decide) (by decide) within_none within_none, fun _ h => by cases h⟩
    split
    · refine ⟨reads_reject (by decide) (by decide) ?_ hid, fun _ h => by cases h⟩
      intro s hs
      have hlength : 0 < s.length ∧ s.length ≤ 160 :=
        of_decide_eq_true (Option.filter_eq_some_iff.mp hs).2
      exact ⟨fun hempty => by simp [hempty] at hlength, hlength.2⟩
    split
    next choice _ =>
      have hchoice := @reads_parseChoice _ adapter request _ (.obj choice) hid
      refine ⟨fun e he => ?_, fun parsed h => ?_⟩
      · cases houtput : parseChoice request adapter _ (.obj choice) with
        | error e' =>
            rw [houtput] at he
            obtain rfl := Except.error.inj he
            exact hchoice e' houtput
        | ok output =>
            rw [houtput] at he
            cases he
      · obtain ⟨output, -, h⟩ := Proc.bind_eq_ok.mp h
        obtain rfl := Except.ok.inj h
        exact hid
    next =>
      exact ⟨reads_reject (by decide) (by decide) within_model hid, fun _ h => by cases h⟩

end Responses

end EsanGbos.ModelGateway.DeepSeek
