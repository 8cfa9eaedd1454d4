import EsanGbos.ModelGateway.Requirements

/-!
# What a call spends

The attempts of a call, the settlement of its response and the consumption of its reservation.

## Main definitions

* `Attempted`, `Settled` — what the attempts and the settlement have come to.
* `Spent` — what a call comes to: it is settled, or consumed, or nothing is charged.

## Main results

* `runs_call` — every call that has made an attempt has spent, in one of these ways.
-/
namespace EsanGbos.ModelGateway.DeepSeek
open Lib AgentRuntime

/-! ## The attempts -/

section Attempts
variable {py : Stdlib} {adapter : Adapter} {request : TokenizedModelRequest py} {attempt : ℕ}
  {reservation : BudgetReservation} {payload : Json} {es : List Event} {e : Event}
  {progress progress' : Progress} {response : Except Exn Response}

def Attempting : Event → Prop
  | ⟨(_, .ensureCanAttempt _), _⟩ | ⟨(_, .post _), _⟩ | ⟨(_, .retryDelay _), _⟩ => True
  | _ => False

/-- The counts after an event. -/
def Progress.count (progress : Progress) (e : Event) : Progress :=
  ⟨progress.networkCalls + (isPost e).toNat, progress.ambiguousAttempts + (isAmbiguous e).toNat⟩

/-- What the attempts have come to. -/
structure Attempted (adapter : Adapter) (request : TokenizedModelRequest py) (es : List Event)
    (progress progress' : Progress) (response : Except Exn Response) : Prop where
  attempting : ∀ e ∈ es, Attempting e
  posts : progress'.networkCalls = progress.networkCalls + posts es
  ambiguous : progress'.ambiguousAttempts = progress.ambiguousAttempts + ambiguous es
  expected : (∀ e ∈ es, Expected adapter request e) ↔
    ∀ e, response >>= parseResponse request adapter = .error e → Recordable e
  stops : (∃ e ∈ es, Raises Stops e) ↔ ∃ e, response = .error e ∧ Stops e
  outputs : outputs adapter request es =
    ((response >>= parseResponse request adapter).toOption.map (·.output)).toList

theorem Attempted.nil {failure : Failure} (h : Recordable (.gateway failure))
    (hstops : ¬Stops (.gateway failure)) :
    Attempted adapter request [] progress progress (.error (.gateway failure)) := by
  constructor
  case attempting => simp
  case posts => rfl
  case ambiguous => rfl
  case expected =>
    refine iff_of_true (by simp) fun e he => ?_
    obtain rfl := Except.error.inj he
    exact h
  case stops =>
    refine iff_of_false (by simp) ?_
    rintro ⟨e, he, hstop⟩
    obtain rfl := Except.error.inj he
    exact hstops hstop
  case outputs => rfl

/-- An event after which the attempts go on. -/
theorem Attempted.cons {next : Progress}
    (h : Attempted adapter request es next progress' response)
    (hnext : next = progress.count e) (hattempting : Attempting e)
    (hexpected : Expected adapter request e)
    (hstops : ¬Raises Stops e) (houtput : output? adapter request e = none) :
    Attempted adapter request (e :: es) progress progress' response := by
  subst hnext
  constructor
  case attempting => exact List.forall_mem_cons.mpr ⟨hattempting, h.attempting⟩
  case posts =>
    rw [h.posts]
    cases hpost : isPost e <;> simp [DeepSeek.posts, Progress.count, hpost, add_assoc, add_comm]
  case ambiguous =>
    rw [h.ambiguous]
    cases hambiguous : isAmbiguous e <;>
      simp [DeepSeek.ambiguous, Progress.count, hambiguous, add_assoc, add_comm]
  case expected =>
    rw [List.forall_mem_cons, h.expected]
    exact and_iff_right hexpected
  case stops =>
    rw [List.exists_mem_cons_iff, h.stops]
    exact or_iff_right hstops
  case outputs =>
    rw [← h.outputs]
    exact List.filterMap_cons_none houtput

/-- The event that ends the attempts. -/
theorem Attempted.last (hprogress : progress' = progress.count e) (hattempting : Attempting e)
    (hexpected : Expected adapter request e ↔
      ∀ e, response >>= parseResponse request adapter = .error e → Recordable e)
    (hstops : Raises Stops e ↔ ∃ e, response = .error e ∧ Stops e)
    (houtput : output? adapter request e =
      (response >>= parseResponse request adapter).toOption.map (·.output)) :
    Attempted adapter request [e] progress progress' response := by
  subst hprogress
  constructor
  case attempting => simpa using hattempting
  case posts => cases hpost : isPost e <;> simp [DeepSeek.posts, Progress.count, hpost]
  case ambiguous =>
    cases hambiguous : isAmbiguous e <;> simp [DeepSeek.ambiguous, Progress.count, hambiguous]
  case expected =>
    rw [← hexpected]
    simp
  case stops =>
    rw [← hstops]
    simp
  case outputs =>
    rw [← houtput]
    cases hsome : output? adapter request e <;> simp [DeepSeek.outputs, hsome]

/-- The attempts end with what is raised. -/
theorem Attempted.raised {x : Exn} (hprogress : progress' = progress.count e)
    (hattempting : Attempting e) (hexpected : Expected adapter request e ↔ Recordable x)
    (hstops : Raises Stops e ↔ Stops x) (houtput : output? adapter request e = none) :
    Attempted adapter request [e] progress progress' (.error x) := by
  refine .last hprogress hattempting ?_ ?_ houtput
  · rw [hexpected]
    exact ⟨fun hx e he => Except.error.inj he ▸ hx, fun hx => hx x rfl⟩
  · rw [hstops]
    exact ⟨fun hx => ⟨x, rfl, hx⟩, fun ⟨e, he, hx⟩ => Except.error.inj he ▸ hx⟩

/-- What an event of the transport is, by its verdict. -/
def Judged (adapter : Adapter) (request : TokenizedModelRequest py) (e : Event) : Verdict → Prop
  | .accepted response => isAmbiguous e = false ∧ ¬Raises Stops e ∧
      (Expected adapter request e ↔
        ∀ e', parseResponse request adapter response = .error e' → Recordable e') ∧
      output? adapter request e = (parseResponse request adapter response).toOption.map (·.output)
  | .retried ambiguous _ errorCode => isAmbiguous e = ambiguous ∧ ¬Raises Stops e ∧
      Expected adapter request e ∧ output? adapter request e = none ∧
      errorCode ∈ ["transport_exhausted", "retry_exhausted"]
  | .refused x => isAmbiguous e = false ∧ (Raises Stops e ↔ Stops x) ∧
      (Expected adapter request e ↔ Recordable x) ∧ output? adapter request e = none

theorem judged_verdict {n : ℕ} (answer : Except Exn Response) :
    Judged adapter request ⟨(attempt, .post payload), answer⟩ (verdict n answer) := by
  cases answer with
  | error x =>
      cases x with
      | transport ambiguous =>
          exact ⟨rfl, not_false, .inl ⟨ambiguous, rfl⟩, rfl, by decide⟩
      | gateway failure =>
          refine ⟨rfl, Iff.rfl, or_iff_right ?_, rfl⟩
          rintro ⟨_, h⟩
          cases h
      | arithmetic =>
          refine ⟨rfl, Iff.rfl, or_iff_right ?_, rfl⟩
          rintro ⟨_, h⟩
          cases h
      | other =>
          refine ⟨rfl, Iff.rfl, or_iff_right ?_, rfl⟩
          rintro ⟨_, h⟩
          cases h
  | ok response =>
      by_cases hretry : response.statusCode = 429 ∨ 500 ≤ response.statusCode
      · have hverdict : verdict n (.ok response) = .retried (500 ≤ response.statusCode)
            "retryable model response exhausted retries" "retry_exhausted" := if_pos hretry
        rw [hverdict]
        refine ⟨rfl, not_false, ?_, if_neg (by omega), by decide⟩
        intro htaken
        omega
      · have hserver : isAmbiguous ⟨(attempt, .post payload), .ok response⟩ = false :=
          decide_eq_false fun hserver => hretry (.inr hserver)
        by_cases htaken : 200 ≤ response.statusCode ∧ response.statusCode < 300
        · have hverdict : verdict n (.ok response) = .accepted response := by
            rw [verdict, if_neg hretry, if_pos htaken]
          rw [hverdict]
          refine ⟨hserver, not_false, ?_, if_pos htaken⟩
          have hreads := (@parseResponse_reads _ adapter request response).1
          constructor
          · intro hexpected x hx
            rcases hreads x hx with rfl | hrecordable
            · exact absurd hx (hexpected htaken)
            · exact hrecordable.1
          · intro hrecordable _ hother
            exact hrecordable _ hother
        · have hverdict : verdict n (.ok response) = .refused (.gateway {
              message := "non-retryable model response", errorCode := "provider_http_error",
              networkCalls := n }) := by
            rw [verdict, if_neg hretry, if_neg htaken]
          rw [hverdict]
          refine ⟨hserver, ?_, ?_, if_neg htaken⟩
          · exact iff_of_false not_false (by simp [Stops])
          · refine iff_of_true (fun h => absurd h htaken) ⟨?_, within_none, within_none⟩
            simp [errorCodes]

/-- The loop always ends with a response or with what is raised. -/
theorem runs_tryAttempts {remaining : ℕ} {outcome : Except Exn (Except Exn Response × Progress)}
    (h : (tryAttempts attempt reservation payload remaining progress).Runs es outcome) :
    ∃ response progress', outcome = .ok (response, progress') ∧
      Attempted adapter request es progress progress' response := by
  induction remaining generalizing progress es with
  | zero =>
      obtain ⟨rfl, rfl⟩ := Prog.runs_pure.mp h
      refine ⟨_, _, rfl, .nil ⟨?_, within_none, within_none⟩ ?_⟩
      · simp [errorCodes]
      · simp [Stops]
  | succ remaining ih =>
      replace h := Prog.runs_attempt_invoke_bind.mp h
      obtain ⟨answer, rest, rfl, h⟩ := h
      cases answer with
      | error x =>
          obtain ⟨rfl, rfl⟩ := Prog.runs_pure.mp h
          exact ⟨_, _, rfl, .raised rfl trivial Iff.rfl Iff.rfl rfl⟩
      | ok _ =>
          dsimp only at h
          replace h := Prog.runs_attempt_invoke_bind.mp h
          obtain ⟨answer, rest, rfl, h⟩ := h
          have hjudged := @judged_verdict _ adapter request attempt payload
            (progress.networkCalls + 1) answer
          have hfirst : ∀ {es progress' response},
              Attempted adapter request es progress progress' response →
              Attempted adapter request
                (⟨(attempt, .ensureCanAttempt reservation), .ok ()⟩ :: es) progress progress'
                response := fun h => .cons h rfl trivial trivial not_false rfl
          cases hverdict : verdict (progress.networkCalls + 1) answer with
          | accepted response =>
              rw [hverdict] at hjudged
              simp only [hverdict] at h
              obtain ⟨rfl, rfl⟩ := Prog.runs_pure.mp h
              obtain ⟨hambiguous, hstops, hexpected, houtput⟩ := hjudged
              refine ⟨_, _, rfl, hfirst (.last ?_ trivial hexpected ?_ houtput)⟩
              · rw [Progress.count, hambiguous]
                rfl
              · refine iff_of_false hstops ?_
                rintro ⟨_, he, -⟩
                cases he
          | refused x =>
              rw [hverdict] at hjudged
              simp only [hverdict] at h
              obtain ⟨rfl, rfl⟩ := Prog.runs_pure.mp h
              obtain ⟨hambiguous, hstops, hexpected, houtput⟩ := hjudged
              refine ⟨_, _, rfl, hfirst (.raised ?_ trivial hexpected hstops houtput)⟩
              rw [Progress.count, hambiguous]
              rfl
          | retried ambiguous message errorCode =>
              rw [hverdict] at hjudged
              simp only [hverdict] at h
              obtain ⟨rfl, hstops, hexpected, houtput, hcode⟩ := hjudged
              have hsecond := fun {es : List Event} {next progress' : Progress}
                  {response : Except Exn Response}
                  (h : Attempted adapter request es next progress' response)
                  (hnext : next = progress.count ⟨(attempt, .post payload), answer⟩) =>
                hfirst (.cons h hnext trivial hexpected hstops houtput)
              by_cases hlast : remaining = 0
              · rw [if_pos hlast] at h
                obtain ⟨rfl, rfl⟩ := Prog.runs_pure.mp h
                simp only [List.mem_cons, List.not_mem_nil, or_false] at hcode
                refine ⟨_, _, rfl, hsecond (.nil ⟨?_, within_none, within_none⟩ ?_) rfl⟩
                · rcases hcode with rfl | rfl <;> simp [errorCodes]
                · rcases hcode with rfl | rfl <;> simp [Stops]
              · rw [if_neg hlast] at h
                replace h := Prog.runs_attempt_invoke_bind.mp h
                obtain ⟨delay, rest, rfl, h⟩ := h
                cases delay with
                | error x =>
                    obtain ⟨rfl, rfl⟩ := Prog.runs_pure.mp h
                    exact ⟨_, _, rfl,
                      hsecond (.raised rfl trivial Iff.rfl Iff.rfl rfl) rfl⟩
                | ok _ =>
                    obtain ⟨response, progress', rfl, hattempted⟩ := ih h
                    exact ⟨response, progress', rfl,
                      hsecond (.cons hattempted rfl trivial trivial not_false rfl) rfl⟩

end Attempts
/-! ## The settlement -/

section Settlement
variable {py : Stdlib} {adapter : Adapter} {request : TokenizedModelRequest py} {attempt : ℕ}
  {reservation : BudgetReservation} {es es' : List Event} {e : Event} {worst : Decimal}
  {progress : Progress} {response : Except Exn Response} {outcome : Except Exn CallResult}

def Settling : Event → Prop
  | ⟨(_, .calculate ..), _⟩ | ⟨(_, .settle ..), _⟩ => True
  | _ => False

/-- An event that is neither of a clock nor of the end of a logical call. -/
def InCall : Event → Prop
  | ⟨(_, .clock), _⟩ | ⟨(_, .monotonic), _⟩ | ⟨(_, .monthlyCostUsd), _⟩
  | ⟨(_, .record _), _⟩ => False
  | _ => True

theorem Attempting.inCall (h : Attempting e) : InCall e := by
  rcases e with ⟨⟨k, op⟩, answer⟩
  cases op <;> first | exact trivial | exact h

theorem Settling.inCall (h : Settling e) : InCall e := by
  rcases e with ⟨⟨k, op⟩, answer⟩
  cases op <;> first | exact trivial | exact h

/-- Attempts cost nothing by themselves. -/
theorem Attempting.free (h : Attempting e) :
    charge? e = none ∧ price? adapter e = none ∧ isSettled e = false := by
  rcases e with ⟨⟨k, op⟩, answer⟩
  cases op <;> first | exact ⟨rfl, rfl, rfl⟩ | exact h.elim

theorem Settling.free (h : Settling e) :
    isPost e = false ∧ isAmbiguous e = false ∧ output? adapter request e = none := by
  rcases e with ⟨⟨k, op⟩, answer⟩
  cases op <;> first | exact ⟨rfl, rfl, rfl⟩ | exact h.elim

theorem InCall.silent (h : InCall e) :
    record? e = none ∧ time? e = none ∧ tick? e = none ∧ isNan e = false := by
  rcases e with ⟨⟨k, op⟩, answer⟩
  cases op <;> first | exact ⟨rfl, rfl, rfl, rfl⟩ | exact h.elim

/-- What an answer of the price calculator comes to. -/
theorem priceOf_cases {inputTokens outputTokens : ℕ} (answer : Except Exn Number) :
    (∃ price, priceOf adapter answer = .ok price ∧
      (price.negative = false ∨ price.coefficient = 0) ∧ adapter.catalogVersion ≠ "" ∧
      Expected adapter request ⟨(attempt, .calculate inputTokens outputTokens), answer⟩ ∧
      ¬Raises Stops ⟨(attempt, .calculate inputTokens outputTokens), answer⟩) ∨
    ∃ x, priceOf adapter answer = .error x ∧
      (Expected adapter request ⟨(attempt, .calculate inputTokens outputTokens), answer⟩ ↔
        Recordable x) ∧
      (Raises Stops ⟨(attempt, .calculate inputTokens outputTokens), answer⟩ ↔ Stops x) := by
  have hfail : ∀ message, Recordable (.gateway { message, errorCode := "pricing_error" }) ∧
      ¬Stops (.gateway { message, errorCode := "pricing_error" }) := by
    intro message
    exact ⟨⟨by simp [errorCodes], within_none, within_none⟩, by simp [Stops]⟩
  cases answer with
  | error x =>
      right
      cases x with
      | gateway failure => exact ⟨_, rfl, or_iff_right (fun h => by cases h), Iff.rfl⟩
      | transport ambiguous => exact ⟨_, rfl, or_iff_right (fun h => by cases h), Iff.rfl⟩
      | arithmetic =>
          exact ⟨_, rfl, iff_of_true (.inl rfl) (hfail _).1, iff_of_false not_false (hfail _).2⟩
      | other => exact ⟨_, rfl, or_iff_right (fun h => by cases h), Iff.rfl⟩
  | ok price =>
      cases price with
      | nan =>
          right
          exact ⟨_, rfl, iff_of_false (fun h => h rfl) not_false, Iff.rfl⟩
      | infinite negative =>
          right
          exact ⟨_, rfl, iff_of_true (fun h => by cases h) (hfail _).1,
            iff_of_false not_false (hfail _).2⟩
      | finite amount =>
          by_cases hnegative : amount.negative ∧ amount.coefficient ≠ 0
          · right
            exact ⟨_, if_pos hnegative, iff_of_true (fun h => by cases h) (hfail _).1,
              iff_of_false not_false (hfail _).2⟩
          by_cases hcatalog : adapter.catalogVersion = ""
          · right
            exact ⟨_, (if_neg hnegative).trans (if_pos hcatalog),
              iff_of_true (fun h => by cases h) (hfail _).1, iff_of_false not_false (hfail _).2⟩
          · left
            refine ⟨amount, (if_neg hnegative).trans (if_neg hcatalog), ?_, hcatalog, ?_, not_false⟩
            · by_cases hsign : amount.negative = true
              · exact .inr (by_contra fun hzero => hnegative ⟨hsign, hzero⟩)
              · exact .inl (Bool.eq_false_iff.mpr hsign)
            · intro hnan
              cases hnan

/-- What the attempts and the settlement have come to. -/
structure Settled (adapter : Adapter) (request : TokenizedModelRequest py) (es : List Event)
    (worst : Decimal) (progress : Progress) (outcome : Except Exn CallResult) : Prop where
  inCall : ∀ e ∈ es, InCall e
  posts : progress.networkCalls = posts es
  ambiguous : progress.ambiguousAttempts = ambiguous es
  charges : charges es =
    (outcome.toOption.map fun result => adapter.costOf result.amountUsd).toList
  prices : (prices adapter es).length ≤ 1
  expected : ((∀ e ∈ es, Expected adapter request e) ∧ ∀ price ∈ DeepSeek.prices adapter es,
      withSurcharge adapter.context price worst progress.ambiguousAttempts ≠ none) ↔
    (∀ x, outcome = .error x → Recordable x) ∧
      ∀ result, outcome = .ok result → adapter.catalogVersion.length ≤ 80
  stops : (∃ e ∈ es, Raises Stops e) ↔ ∃ x, outcome = .error x ∧ Stops x
  settled : (∃ e ∈ es, isSettled e) ↔ ∃ result, outcome = .ok result
  result : ∀ result, outcome = .ok result → result.networkCalls = progress.networkCalls ∧
    Within 256 result.responseId ∧
    (result.amountUsd.negative = false ∨ result.amountUsd.coefficient = 0) ∧
    adapter.catalogVersion ≠ "" ∧ outputs adapter request es = [result.output]

theorem Attempted.free (h : Attempted adapter request es {} progress response) :
    DeepSeek.charges es = [] ∧ prices adapter es = [] ∧ ¬∃ e ∈ es, isSettled e := by
  refine ⟨?_, ?_, ?_⟩
  · exact List.filterMap_eq_nil_iff.mpr fun e he =>
      (@Attempting.free adapter _ (h.attempting e he)).1
  · exact List.filterMap_eq_nil_iff.mpr fun e he => (h.attempting e he).free.2.1
  · rintro ⟨e, he, hsettled⟩
    rw [(@Attempting.free adapter _ (h.attempting e he)).2.2] at hsettled
    cases hsettled

/-- The attempts fail, or their response is refused. -/
theorem Attempted.refused {x : Exn} (h : Attempted adapter request es {} progress response)
    (hresponse : response >>= parseResponse request adapter = .error x) :
    Settled adapter request es worst progress (.error x) := by
  obtain ⟨hcharges, hprices, hsettled⟩ := h.free
  constructor
  case inCall => exact fun e he => (h.attempting e he).inCall
  case posts => rw [h.posts, Nat.zero_add]
  case ambiguous => rw [h.ambiguous, Nat.zero_add]
  case charges => exact hcharges
  case prices =>
    rw [hprices]
    exact Nat.zero_le 1
  case expected =>
    rw [h.expected, hresponse, hprices]
    simp
  case stops =>
    rw [h.stops]
    cases response with
    | error x' =>
        obtain rfl := Except.error.inj hresponse
        simp
    | ok response =>
        refine iff_of_false (fun ⟨_, he, _⟩ => by cases he) ?_
        rintro ⟨_, he, hstop⟩
        obtain rfl := Except.error.inj he
        rcases (parseResponse_reads response).1 x hresponse with rfl | hreads
        · exact hstop
        · exact hreads.2 hstop
  case settled => exact iff_of_false hsettled fun ⟨_, h⟩ => by cases h
  case result => exact fun _ h => by cases h

/-- The response is taken, and the settlement follows. -/
theorem Attempted.settled {parsed : Parsed}
    (h : Attempted adapter request es {} progress response)
    (hresponse : response >>= parseResponse request adapter = .ok parsed)
    (hsettling : ∀ e ∈ es', Settling e)
    (hcharges : DeepSeek.charges es' =
      (outcome.toOption.map fun result => adapter.costOf result.amountUsd).toList)
    (hprices : (prices adapter es').length ≤ 1)
    (hexpected : ((∀ e ∈ es', Expected adapter request e) ∧ ∀ price ∈ prices adapter es',
        withSurcharge adapter.context price worst progress.ambiguousAttempts ≠ none) ↔
      (∀ x, outcome = .error x → Recordable x) ∧
        ∀ result, outcome = .ok result → adapter.catalogVersion.length ≤ 80)
    (hstops : (∃ e ∈ es', Raises Stops e) ↔ ∃ x, outcome = .error x ∧ Stops x)
    (hsettled : (∃ e ∈ es', isSettled e) ↔ ∃ result, outcome = .ok result)
    (hresult : ∀ result, outcome = .ok result →
      result.networkCalls = progress.networkCalls ∧ result.responseId = parsed.responseId ∧
      (result.amountUsd.negative = false ∨ result.amountUsd.coefficient = 0) ∧
      adapter.catalogVersion ≠ "" ∧ result.output = parsed.output) :
    Settled adapter request (es ++ es') worst progress outcome := by
  obtain ⟨hfreeCharges, hfreePrices, hfreeSettled⟩ := h.free
  have hallExpected : ∀ e ∈ es, Expected adapter request e := by
    rw [h.expected, hresponse]
    intro x hx
    cases hx
  have hnoStop : ¬∃ e ∈ es, Raises Stops e := by
    rw [h.stops]
    rintro ⟨x, rfl, -⟩
    cases hresponse
  have hzero : DeepSeek.posts es' = 0 ∧ DeepSeek.ambiguous es' = 0 ∧
      DeepSeek.outputs adapter request es' = [] := by
    refine ⟨?_, ?_, ?_⟩
    · refine List.countP_eq_zero.mpr fun e he => ?_
      rw [(@Settling.free _ adapter request _ (hsettling e he)).1]
      exact Bool.false_ne_true
    · refine List.countP_eq_zero.mpr fun e he => ?_
      rw [(@Settling.free _ adapter request _ (hsettling e he)).2.1]
      exact Bool.false_ne_true
    · exact List.filterMap_eq_nil_iff.mpr fun e he => (hsettling e he).free.2.2
  have hpricesAppend : prices adapter (es ++ es') = prices adapter es' := by
    rw [prices_append, hfreePrices, List.nil_append]
  constructor
  case inCall =>
    intro e he
    rcases List.mem_append.mp he with he | he
    · exact (h.attempting e he).inCall
    · exact (hsettling e he).inCall
  case posts =>
    rw [h.posts, Nat.zero_add, posts_append, hzero.1, Nat.add_zero]
  case ambiguous =>
    rw [h.ambiguous, Nat.zero_add, ambiguous_append, hzero.2.1, Nat.add_zero]
  case charges =>
    rw [charges_append, hfreeCharges, List.nil_append]
    exact hcharges
  case prices =>
    rw [hpricesAppend]
    exact hprices
  case expected =>
    rw [hpricesAppend, ← hexpected, List.forall_mem_append, and_iff_right hallExpected]
  case stops =>
    simp only [← hstops, List.mem_append, or_and_right, exists_or, or_iff_right hnoStop]
  case settled =>
    simp only [← hsettled, List.mem_append, or_and_right, exists_or, or_iff_right hfreeSettled]
  case result =>
    intro result hok
    obtain ⟨hcalls, hid, hsign, hcatalog, houtput⟩ := hresult result hok
    have hparsed : ∃ r, parseResponse request adapter r = .ok parsed := by
      cases response with
      | error x => cases hresponse
      | ok r => exact ⟨r, hresponse⟩
    obtain ⟨r, hr⟩ := hparsed
    refine ⟨hcalls, ?_, hsign, hcatalog, ?_⟩
    · rw [hid]
      exact (parseResponse_reads r).2 parsed hr
    · rw [outputs_append, h.outputs, hzero.2.2, hresponse, houtput]
      rfl

/-- The cost of ambiguous attempts is not negative. -/
theorem withSurcharge_nonneg {price amount : Decimal} {n : ℕ}
    (h : withSurcharge adapter.context price worst n = some amount)
    (hprice : price.negative = false ∨ price.coefficient = 0)
    (hworst : worst.negative = false ∨ worst.coefficient = 0) :
    amount.negative = false ∨ amount.coefficient = 0 := by
  unfold withSurcharge at h
  split at h
  · obtain rfl := Option.some.inj h
    exact hprice
  · obtain ⟨product, hproduct, hsum⟩ := Option.bind_eq_some_iff.mp h
    refine Decimal.add_nonneg hsum hprice (Decimal.round_nonneg hproduct ?_)
    rcases hworst with hsign | hzero
    · exact .inl hsign
    · right
      dsimp only
      rw [hzero, Nat.zero_mul]

theorem runs_settled (h : Attempted adapter request es {} progress response)
    (hworst : worst.negative = false ∨ worst.coefficient = 0)
    (hruns : (ofExcept response >>=
      settleResponse adapter request attempt reservation worst progress).Runs es' outcome) :
    Settled adapter request (es ++ es') worst progress outcome := by
  replace hruns := Prog.runs_done_bind.mp hruns
  rcases hruns with ⟨x, rfl, rfl, rfl⟩ | ⟨taken, rfl, hruns⟩
  · rw [List.append_nil]
    exact h.refused rfl
  unfold settleResponse at hruns
  replace hruns := Prog.runs_done_bind.mp hruns
  rcases hruns with ⟨x, hparse, rfl, rfl⟩ | ⟨parsed, hparse, hruns⟩
  · rw [List.append_nil]
    exact h.refused hparse
  cases husage : parsed.usage with
  | unknown =>
      simp only [husage] at hruns
      obtain ⟨rfl, rfl⟩ := hruns
      have hid := (parseResponse_reads taken).2 parsed hparse
      refine h.settled hparse (by simp) rfl (Nat.zero_le 1) ?_ ?_ ?_ (fun _ h => by cases h)
      · refine iff_of_true (by simp [prices]) ⟨fun x hx => ?_, fun _ h => by cases h⟩
        obtain rfl := Except.error.inj hx
        exact ⟨by simp [errorCodes], within_model, hid⟩
      · refine iff_of_false (by simp) ?_
        rintro ⟨x, hx, hstop⟩
        obtain rfl := Except.error.inj hx
        simp [Stops] at hstop
      · exact iff_of_false (by simp) fun ⟨_, h⟩ => by cases h
  | known inputTokens outputTokens =>
      simp only [husage] at hruns
      replace hruns := Prog.runs_attempt_invoke_bind.mp hruns
      obtain ⟨answer, rest, rfl, hruns⟩ := hruns
      rcases @priceOf_cases _ adapter request attempt inputTokens
        outputTokens answer with
        ⟨price, hprice, hsign, hcatalog, hexpected, hstops⟩ | ⟨x, hprice, hexpected, hstops⟩
      · have hpriced : price? adapter ⟨(attempt, .calculate inputTokens outputTokens), answer⟩ =
            some price := congrArg Except.toOption hprice
        rw [hprice] at hruns
        replace hruns : (ofExcept (orArithmetic (withSurcharge adapter.context price worst
          progress.ambiguousAttempts)) >>= _).Runs rest outcome := hruns
        cases hamount : withSurcharge adapter.context price worst progress.ambiguousAttempts with
        | none =>
            rw [hamount] at hruns
            obtain ⟨rfl, rfl⟩ := hruns
            have hprices : prices adapter
                [⟨(attempt, .calculate inputTokens outputTokens), answer⟩] = [price] :=
              List.filterMap_cons_some hpriced
            refine h.settled hparse (by simp [Settling]) rfl ?_ ?_ ?_ ?_ (fun _ h => by cases h)
            · rw [hprices]
              exact le_rfl
            · rw [hprices, List.forall_mem_singleton, List.forall_mem_singleton]
              exact iff_of_false (fun h => h.2 hamount) fun h => h.1 _ rfl
            · rw [List.exists_mem_cons_iff, or_iff_right hstops]
              simp [Stops]
            · exact iff_of_false (by simp [isSettled]) fun ⟨_, h⟩ => by cases h
        | some amount =>
            rw [hamount] at hruns
            replace hruns := Prog.runs_invoke_bind.mp hruns
            have hprices : ∀ settled, prices adapter
                [⟨(attempt, .calculate inputTokens outputTokens), answer⟩,
                  ⟨(attempt, .settle reservation parsed.usage (adapter.costOf amount)), settled⟩] =
                [price] := by
              intro settled
              rw [prices, List.filterMap_cons_some hpriced]
              rfl
            rcases hruns with ⟨x, rfl, rfl⟩ | ⟨_, rest, rfl, rfl, rfl⟩
            · refine h.settled hparse (by simp [Settling]) rfl ?_ ?_ ?_ ?_ (fun _ h => by cases h)
              · rw [hprices]
                exact le_rfl
              · rw [hprices, List.forall_mem_cons, List.forall_mem_singleton,
                  List.forall_mem_singleton, and_iff_right hexpected, hamount]
                constructor
                · rintro ⟨hx, -⟩
                  exact ⟨fun _ h => Except.error.inj h ▸ hx, fun _ h => by cases h⟩
                · rintro ⟨hx, -⟩
                  exact ⟨hx x rfl, Option.some_ne_none amount⟩
              · rw [List.exists_mem_cons_iff, or_iff_right hstops]
                simp [Raises]
              · exact iff_of_false (by simp [isSettled]) fun ⟨_, h⟩ => by cases h
            · refine h.settled hparse (by simp [Settling]) rfl ?_ ?_ ?_ ?_ ?_
              · rw [hprices]
                exact le_rfl
              · rw [hprices, List.forall_mem_cons, List.forall_mem_singleton,
                  List.forall_mem_singleton, and_iff_right hexpected, hamount]
                constructor
                · rintro ⟨hlength, -⟩
                  exact ⟨fun _ h => (by cases h), fun _ _ => hlength⟩
                · rintro ⟨-, hlength⟩
                  exact ⟨hlength _ rfl, Option.some_ne_none amount⟩
              · rw [List.exists_mem_cons_iff, or_iff_right hstops]
                simp [Raises]
              · simp [isSettled]
              · intro result hok
                obtain rfl := Except.ok.inj hok
                exact ⟨rfl, rfl, withSurcharge_nonneg hamount hsign hworst, hcatalog, rfl⟩
      · rw [hprice] at hruns
        obtain ⟨rfl, rfl⟩ := hruns
        have hpriced : prices adapter
            [⟨(attempt, .calculate inputTokens outputTokens), answer⟩] = [] :=
          List.filterMap_cons_none (congrArg Except.toOption hprice)
        refine h.settled hparse (by simp [Settling]) rfl ?_ ?_ ?_ ?_ (fun _ h => by cases h)
        · rw [hpriced]
          exact Nat.zero_le 1
        · rw [hpriced, List.forall_mem_singleton, hexpected]
          simp
        · rw [List.exists_mem_cons_iff, hstops]
          simp
        · exact iff_of_false (by simp [isSettled]) fun ⟨_, h⟩ => by cases h

end Settlement
/-! ## One call -/

section Calls
variable {py : Stdlib} {adapter : Adapter} {request : TokenizedModelRequest py} {attempt : ℕ}
  {reservation : BudgetReservation} {payload : Json} {es : List Event} {e : Event}
  {worst : Decimal} {fair fair' : Prop} {outcome : Except Exn CallResult}

/-- What a call comes to that has made an attempt: it is settled, it fails and is consumed, or
nothing is charged for what is not fair. -/
inductive Spent (adapter : Adapter) (request : TokenizedModelRequest py) (es : List Event)
    (fair : Prop) : Except Exn CallResult → Prop
  | settled (result : CallResult) (charged : charges es = [adapter.costOf result.amountUsd])
      (calls : result.networkCalls = posts es)
      (fair_iff : fair ↔ adapter.catalogVersion.length ≤ 80)
      (going : ¬∃ e ∈ es, Raises Stops e) (settles : ∃ e ∈ es, isSettled e)
      (identified : Within 256 result.responseId)
      (positive : result.amountUsd.negative = false ∨ result.amountUsd.coefficient = 0)
      (priced : adapter.catalogVersion ≠ "")
      (output : outputs adapter request es = [result.output]) :
      Spent adapter request es fair (.ok result)
  | consumed (failure : Failure) (charged : charges es = [failure.cost])
      (calls : failure.networkCalls = posts es)
      (fair_iff : fair ↔ failure.Auditable ∧ failure.cost.Auditable)
      (stops : (∃ e ∈ es, Raises Stops e) ↔ Stops (.gateway failure))
      (unsettled : ¬∃ e ∈ es, isSettled e) :
      Spent adapter request es fair (.error (.gateway failure))
  | lost (x : Exn) (charged : charges es = []) (unfair : ¬fair) :
      Spent adapter request es fair (.error x)

/-- An event that neither counts nor costs anything. -/
structure Idle (adapter : Adapter) (request : TokenizedModelRequest py) (e : Event) : Prop where
  post : isPost e = false
  charge : charge? e = none
  stops : ¬Raises Stops e
  settled : isSettled e = false
  output : output? adapter request e = none

theorem Spent.cons (h : Spent adapter request es fair outcome) (he : Idle adapter request e)
    (hfair : fair' ↔ fair) : Spent adapter request (e :: es) fair' outcome := by
  have hcharges : charges (e :: es) = charges es := List.filterMap_cons_none he.charge
  have hposts : posts (e :: es) = posts es := by
    rw [posts, List.countP_cons_of_neg (by rw [he.post]; exact Bool.false_ne_true)]
    rfl
  have houtputs : outputs adapter request (e :: es) = outputs adapter request es :=
    List.filterMap_cons_none he.output
  have hstops : (∃ e' ∈ e :: es, Raises Stops e') ↔ ∃ e ∈ es, Raises Stops e := by
    rw [List.exists_mem_cons_iff, or_iff_right he.stops]
  have hsettled : (∃ e' ∈ e :: es, isSettled e' = true) ↔ ∃ e ∈ es, isSettled e = true := by
    rw [List.exists_mem_cons_iff, he.settled]
    exact or_iff_right Bool.false_ne_true
  cases h with
  | settled result charged calls fair_iff going settles identified positive priced output =>
      exact .settled result (hcharges.trans charged) (calls.trans hposts.symm)
        (hfair.trans fair_iff) (fun h => going (hstops.mp h)) (hsettled.mpr settles) identified
        positive priced (houtputs.trans output)
  | consumed failure charged calls fair_iff stops unsettled =>
      exact .consumed failure (hcharges.trans charged) (calls.trans hposts.symm)
        (hfair.trans fair_iff) (hstops.trans stops) fun h => unsettled (hsettled.mp h)
  | lost x charged unfair =>
      exact .lost x (hcharges.trans charged) fun h => unfair (hfair.mp h)

/-- The events are expected, and the surcharge on each price has a value. -/
def FairAt (adapter : Adapter) (request : TokenizedModelRequest py) (worst : Decimal)
    (es : List Event) : Prop :=
  (∀ e ∈ es, Expected adapter request e) ∧ ∀ price ∈ prices adapter es,
    withSurcharge adapter.context price worst (ambiguous es) ≠ none

theorem fairAt_consume {answer : Except Exn CostSnapshot} :
    FairAt adapter request worst (es ++ [⟨(attempt, .consume reservation), answer⟩]) ↔
      FairAt adapter request worst es ∧
        Expected adapter request ⟨(attempt, .consume reservation), answer⟩ := by
  have hprices : prices adapter (es ++ [⟨(attempt, .consume reservation), answer⟩]) =
      prices adapter es := by
    rw [prices_append]
    exact List.append_nil _
  have hambiguous : ambiguous (es ++ [⟨(attempt, .consume reservation), answer⟩]) =
      ambiguous es := by
    rw [ambiguous_append]
    rfl
  rw [FairAt, FairAt, hprices, hambiguous, List.forall_mem_append, List.forall_mem_singleton]
  exact and_right_comm

/-- The call has made an attempt, or it gives a result. -/
def Made (es : List Event) (outcome : Except Exn CallResult) : Prop :=
  1 ≤ posts es ∨ ∃ result, outcome = .ok result

theorem not_made {x : Exn} (h : posts es = 0) : ¬Made es (.error x) := by
  rintro (hposts | ⟨result, hok⟩)
  · rw [h] at hposts
    exact Nat.not_succ_le_zero 0 hposts
  · cases hok

/-- A call with its reservation that has made an attempt. -/
theorem runs_spend (hworst : worst.negative = false ∨ worst.coefficient = 0)
    (h : (spend adapter request attempt reservation worst payload).Runs es outcome)
    (hmade : Made es outcome) :
    (∀ e ∈ es, InCall e) ∧ (prices adapter es).length ≤ 1 ∧
      Spent adapter request es (FairAt adapter request worst es) outcome := by
  unfold spend at h
  replace h := Prog.runs_bind.mp h
  rcases h with ⟨x, hattempts, -⟩ | ⟨⟨response, progress⟩, before, after, hattempts, h, rfl⟩
  · obtain ⟨_, _, hok, -⟩ := @runs_tryAttempts _ adapter request _ _ _ _ _ _ _ hattempts
    cases hok
  obtain ⟨_, _, hok, hattempted⟩ :=
    @runs_tryAttempts _ adapter request _ _ _ _ _ _ _ hattempts
  obtain ⟨rfl, rfl⟩ := Prod.mk.inj (Except.ok.inj hok)
  dsimp only at h
  replace h := Prog.runs_attempt_bind.mp h
  obtain ⟨settled, during, after, hsettled, h, rfl⟩ := h
  have hspent := runs_settled hattempted hworst hsettled
  rw [← List.append_assoc] at hmade ⊢
  generalize before ++ during = es at hmade hspent ⊢
  have hfair : FairAt adapter request worst es ↔ (∀ x, settled = .error x → Recordable x) ∧
      ∀ result, settled = .ok result → adapter.catalogVersion.length ≤ 80 := by
    rw [FairAt, ← hspent.ambiguous]
    exact hspent.expected
  have hcharged := hspent.charges
  cases settled with
  | ok result =>
      obtain ⟨rfl, rfl⟩ := h
      rw [List.append_nil]
      obtain ⟨hcalls, hid, hsign, hcatalog, houtput⟩ := hspent.result result rfl
      refine ⟨hspent.inCall, hspent.prices, .settled result hcharged
        (hcalls.trans hspent.posts) ?_ ?_ (hspent.settled.mpr ⟨result, rfl⟩) hid hsign hcatalog
        houtput⟩
      · rw [hfair]
        exact ⟨fun h => h.2 result rfl, fun h => ⟨fun _ hx => (by cases hx), fun _ _ => h⟩⟩
      · rw [hspent.stops]
        rintro ⟨_, hx, -⟩
        cases hx
  | error x =>
      have hunsettled : ¬∃ e ∈ es, isSettled e = true := by
        rw [hspent.settled]
        rintro ⟨_, hok⟩
        cases hok
      have hstops : (∃ e ∈ es, Raises Stops e) ↔ Stops x := by
        rw [hspent.stops]
        exact ⟨fun ⟨_, hx, hstop⟩ => Except.error.inj hx ▸ hstop, fun hstop => ⟨x, rfl, hstop⟩⟩
      have hfair : FairAt adapter request worst es ↔ Recordable x := by
        rw [hfair]
        exact ⟨fun h => h.1 x rfl,
          fun h => ⟨fun _ hx => Except.error.inj hx ▸ h, fun _ hok => (by cases hok)⟩⟩
      cases x with
      | gateway failure =>
          dsimp only at h
          by_cases hpos : 0 < progress.networkCalls
          · rw [if_pos hpos] at h
            replace h := Prog.runs_invoke_bind.mp h
            have hinCall : ∀ answer : Except Exn CostSnapshot,
                ∀ e ∈ es ++ [⟨(attempt, .consume reservation), answer⟩], InCall e := by
              intro answer e he
              rcases List.mem_append.mp he with he | he
              · exact hspent.inCall e he
              · obtain rfl := List.mem_singleton.mp he
                trivial
            have hprices : ∀ answer : Except Exn CostSnapshot, (prices adapter
                (es ++ [⟨(attempt, .consume reservation), answer⟩])).length ≤ 1 := by
              intro answer
              rw [prices_append]
              exact (List.append_nil _).symm ▸ hspent.prices
            rcases h with ⟨y, rfl, rfl⟩ | ⟨cost, _, rfl, rfl, rfl⟩
            · refine ⟨hinCall _, hprices _, .lost _ ?_ ?_⟩
              · rw [charges_append, hcharged]
                rfl
              · exact fun hboth => (fairAt_consume.mp hboth).2
            · refine ⟨hinCall _, hprices _, .consumed _ ?_ ?_ ?_ ?_ ?_⟩
              · rw [charges_append, hcharged]
                rfl
              · rw [posts_append]
                exact hspent.posts
              · refine fairAt_consume.trans ((and_congr_left' hfair).trans ?_)
                exact ⟨fun h => ⟨⟨h.1.1, h.1.2, h.1.3⟩, h.2⟩, fun h => ⟨⟨h.1.1, h.1.2, h.1.3⟩, h.2⟩⟩
              · simp only [List.mem_append, List.mem_singleton, or_and_right, exists_or, hstops,
                  exists_eq_left]
                exact or_iff_left not_false
              · simp only [List.mem_append, List.mem_singleton, or_and_right, exists_or,
                  exists_eq_left, not_or]
                exact ⟨hunsettled, Bool.false_ne_true⟩
          · exfalso
            rw [if_neg hpos] at h
            replace h := Prog.runs_invoke_bind.mp h
            have hzero : posts es = 0 := by
              rw [← hspent.posts]
              omega
            rcases h with ⟨_, rfl, rfl⟩ | ⟨_, _, rfl, rfl, rfl⟩
            · refine not_made ?_ hmade
              rw [posts_append, hzero]
              rfl
            · refine not_made ?_ hmade
              rw [posts_append, hzero]
              rfl
      | transport _ | arithmetic | other =>
          obtain ⟨rfl, rfl⟩ := h
          rw [List.append_nil]
          exact ⟨hspent.inCall, hspent.prices, .lost _ hcharged hfair.mp⟩

/-- The same of a whole call, where the first price is the worst one. -/
def Fair (adapter : Adapter) (request : TokenizedModelRequest py) (es : List Event) : Prop :=
  (∀ e ∈ es, Expected adapter request e) ∧ ∀ worst price, prices adapter es = [worst, price] →
    withSurcharge adapter.context price worst (ambiguous es) ≠ none

/-- The worst price comes first, and at most one price after it. -/
theorem prices_cons_some {first second third : Event} {P : Decimal → Decimal → Prop}
    (hfirst : price? adapter first = none) (hsecond : price? adapter second = some worst)
    (hthird : price? adapter third = none) (hprices : (prices adapter es).length ≤ 1) :
    (∀ worst' price, prices adapter (first :: second :: third :: es) = [worst', price] →
      P worst' price) ↔ ∀ price ∈ prices adapter es, P worst price := by
  have hall : prices adapter (first :: second :: third :: es) = worst :: prices adapter es := by
    rw [prices, List.filterMap_cons_none hfirst, List.filterMap_cons_some hsecond,
      List.filterMap_cons_none hthird]
    rfl
  rw [hall]
  rcases hps : prices adapter es with _ | ⟨price, _ | ⟨_, _⟩⟩
  · simp
  · simp
  · rw [hps] at hprices
    simp at hprices

/-- A call that has made an attempt. -/
theorem runs_call {thinking : Bool} {priorOutput : Option Json}
    (h : (call adapter request attempt thinking priorOutput).Runs es outcome)
    (hmade : Made es outcome) :
    (∀ e ∈ es, InCall e) ∧ Spent adapter request es (Fair adapter request es) outcome := by
  unfold call at h
  by_cases hnetwork : adapter.networkEnabled = false
  · rw [if_pos hnetwork] at h
    obtain ⟨rfl, rfl⟩ := h
    exact (not_made rfl hmade).elim
  rw [if_neg hnetwork] at h
  replace h := Prog.runs_invoke_bind.mp h
  rcases h with ⟨_, rfl, rfl⟩ | ⟨counted, es, rfl, h⟩
  · exact (not_made rfl hmade).elim
  by_cases htokens : maxInputTokens < (show ℕ from counted)
  · rw [if_pos htokens] at h
    obtain ⟨rfl, rfl⟩ := h
    exact (not_made rfl hmade).elim
  rw [if_neg htokens] at h
  replace h := Prog.runs_attempt_invoke_bind.mp h
  obtain ⟨answer, es, rfl, h⟩ := h
  rcases @priceOf_cases _ adapter request attempt maxInputTokens
    maxOutputTokens answer with
    ⟨worst, hworst, hsign, -, hexpected, hstops⟩ | ⟨x, hworst, -⟩
  swap
  · rw [hworst] at h
    obtain ⟨rfl, rfl⟩ := h
    exact (not_made rfl hmade).elim
  rw [hworst] at h
  replace h : (ofExcept (orArithmetic (multiply adapter.context worst maxNetworkAttempts)) >>=
    _).Runs es outcome := h
  replace h := Prog.runs_done_bind.mp h
  rcases h with ⟨_, -, rfl, rfl⟩ | ⟨amount, -, h⟩
  · exact (not_made rfl hmade).elim
  replace h := Prog.runs_invoke_bind.mp h
  rcases h with ⟨_, rfl, rfl⟩ | ⟨reservation, es, rfl, h⟩
  · exact (not_made rfl hmade).elim
  obtain ⟨hinCall, hprices, hspent⟩ := runs_spend hsign h hmade
  refine ⟨?_, ?_⟩
  · rw [List.forall_mem_cons, List.forall_mem_cons, List.forall_mem_cons]
    exact ⟨trivial, trivial, trivial, hinCall⟩
  have hpriced : price? adapter ⟨(attempt, .calculate maxInputTokens maxOutputTokens), answer⟩ =
      some worst := congrArg Except.toOption hworst
  refine ((hspent.cons ?_ Iff.rfl).cons ?_ Iff.rfl).cons ?_ ?_
  · exact ⟨rfl, rfl, not_false, rfl, rfl⟩
  · exact ⟨rfl, rfl, hstops, rfl, rfl⟩
  · exact ⟨rfl, rfl, not_false, rfl, rfl⟩
  rw [Fair, List.forall_mem_cons, List.forall_mem_cons, List.forall_mem_cons,
    prices_cons_some rfl hpriced rfl hprices]
  exact ⟨fun h => ⟨h.1.2.2.2, h.2⟩, fun h => ⟨⟨trivial, hexpected, trivial, h.1⟩, h.2⟩⟩

end Calls

end EsanGbos.ModelGateway.DeepSeek
