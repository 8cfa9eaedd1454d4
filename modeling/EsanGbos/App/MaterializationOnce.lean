import EsanGbos.Lib.Machine
import EsanGbos.App.Materialization

/-!
# Intents are executed once

An audit row is committed with the one execution it stands for, so that a request whose name is
there already is answered from it or refused.

## Main definitions

* `Site.Sound` — audit rows and executions agree.
* `Answers` — the execution that a receipt is of.

## Main results

* `applyDraft_cases` — a request is refused, answered from a row, or executed.
* `serve_spec` — a site stays sound and forgets no execution, and what it answers is true.
* `run_serves` — in every run a name is executed once, and answered from there.
-/
namespace EsanGbos.App.Materialization
open Lib

variable {platform : Platform} {sameNumber : List Char → List Char → Bool} {session : Session}
  {view : View} {outcome : Except Failure Saved} {request : Request} {site site' : Site}

/-! ## The invariant -/

/-- The row that is stored with an execution. -/
def Execution.IsStored (e : Execution) (audit : Audit) : Prop :=
  audit.status = .completed ∧ audit.output = some e.receipt ∧
    audit.data.get? "request_digest" = some (.str e.requestDigest)

structure Site.Sound (site : Site) : Prop where
  once : (site.executions.map Execution.auditName).Nodup
  stored : ∀ e ∈ site.executions, ∃ audit, site.audits.get? e.auditName = some audit
  audits : ∀ name audit, site.audits.get? name = some audit →
    ∃ e ∈ site.executions, e.auditName = name ∧ e.IsStored audit
  receipts : ∀ e ∈ site.executions, e.receipt.isObj = true

theorem sound_empty : Site.Sound {} :=
  ⟨List.nodup_nil, fun _ h => (List.not_mem_nil h).elim, fun _ _ h => (by cases h),
    fun _ h => (List.not_mem_nil h).elim⟩

/-- The site after an execution whose name was free. -/
def Site.execute (site : Site) (e : Execution) (authorized completed : Audit) : Site where
  audits := (site.audits.set e.auditName authorized).set e.auditName completed
  executions := site.executions ++ [e]

theorem Site.Sound.execute (h : site.Sound) {e : Execution} {authorized completed : Audit}
    (hfree : site.audits.get? e.auditName = none) (hstored : e.IsStored completed)
    (hreceipt : e.receipt.isObj = true) : (site.execute e authorized completed).Sound := by
  have hget : ∀ name, (site.execute e authorized completed).audits.get? name =
      if name = e.auditName then some completed else site.audits.get? name := by
    intro name
    simp only [Site.execute, Dict.get?_set]
    split <;> rfl
  constructor
  · rw [Site.execute, List.map_append, List.nodup_append]
    refine ⟨h.once, List.nodup_singleton _, ?_⟩
    rintro name hname _ hmem rfl
    rw [List.map_singleton, List.mem_singleton] at hmem
    obtain ⟨e', he', rfl⟩ := List.mem_map.mp hname
    obtain ⟨audit, haudit⟩ := h.stored e' he'
    rw [hmem, hfree] at haudit
    cases haudit
  · intro e' he'
    rw [hget]
    split
    next => exact ⟨_, rfl⟩
    next hne =>
      rcases List.mem_append.mp he' with hold | hnew
      · exact h.stored e' hold
      · exact absurd (congrArg _ (List.mem_singleton.mp hnew)) hne
  · intro name audit haudit
    rw [hget] at haudit
    split at haudit
    next heq =>
      obtain rfl := Option.some.inj haudit
      exact ⟨e, List.mem_append_right _ (List.mem_singleton.mpr rfl), heq.symm, hstored⟩
    next =>
      obtain ⟨e', he', hname, hstored'⟩ := h.audits name audit haudit
      exact ⟨e', List.mem_append_left _ he', hname, hstored'⟩
  · intro e' he'
    rcases List.mem_append.mp he' with hold | hnew
    · exact h.receipts e' hold
    · exact List.mem_singleton.mp hnew ▸ hreceipt

/-! ## Requests -/

/-- The execution answers a request to the site: it has its name and its digest. -/
def Answers (platform : Platform) (request : Request) (site : String) (e : Execution) : Prop :=
  ∃ payload requestId, object platform (some request.payload) "payload" = .ok payload ∧
    request.header "X-Site-ID" = some site ∧ request.header "X-Request-ID" = some requestId ∧
    payload.get? "request_digest" = some (.str e.requestDigest) ∧
    e.auditName = auditName platform (payloadText payload "site_id") (payloadText payload "auth_ref")
      requestId

theorem authenticate_eq_ok {payload : Json} (h : authenticate session request payload = .ok ()) :
    request.header "X-Site-ID" = some session.site ∧ ∃ requestId,
      text (payload.get? "request_id") 256 = .ok requestId ∧
        request.header "X-Request-ID" = some requestId := by
  obtain ⟨-, h⟩ := Proc.ite_throw_eq_ok.mp h
  split at h
  swap
  · cases h
  obtain ⟨-, h⟩ := Proc.ite_else_throw_eq_ok.mp h
  obtain ⟨authRef, -, h⟩ := Proc.bind_eq_ok.mp h
  split at h
  swap
  · cases h
  obtain ⟨siteId, -, h⟩ := Proc.bind_eq_ok.mp h
  obtain ⟨purpose, -, h⟩ := Proc.bind_eq_ok.mp h
  obtain ⟨requestId, hrequest, h⟩ := Proc.bind_eq_ok.mp h
  split at h
  swap
  · cases h
  obtain ⟨⟨-, -, hsite, -, hheader, -, hid, -⟩, -⟩ := Proc.ite_else_throw_eq_ok.mp h
  exact ⟨hsite ▸ hheader, requestId, hrequest, hid⟩

theorem checkApply_eq_ok {payload intent : Json} {requestId requestDigest : String}
    (h : checkApply platform session request payload = .ok (requestId, requestDigest, intent)) :
    request.header "X-Site-ID" = some session.site ∧
      request.header "X-Request-ID" = some requestId ∧
      payload.get? "request_digest" = some (.str requestDigest) := by
  obtain ⟨_, -, h⟩ := Proc.bind_eq_ok.mp h
  obtain ⟨_, hauthentic, h⟩ := Proc.bind_eq_ok.mp h
  obtain ⟨hsite, requestId', htext, hheader⟩ := authenticate_eq_ok hauthentic
  obtain ⟨requestId'', htext', h⟩ := Proc.bind_eq_ok.mp h
  obtain rfl := Except.ok.inj (htext.symm.trans htext')
  obtain ⟨intent', -, h⟩ := Proc.bind_eq_ok.mp h
  obtain ⟨_, -, h⟩ := Proc.bind_eq_ok.mp h
  split at h
  next digest hdigest =>
    obtain ⟨-, h⟩ := Proc.ite_else_throw_eq_ok.mp h
    obtain ⟨rfl, rfl, -⟩ : requestId' = requestId ∧ digest = requestDigest ∧ intent' = intent := by
      simpa using Except.ok.inj h
    exact ⟨hsite, hheader, hdigest⟩
  next => cases h

def idempotencyConflict : Failure := .api "idempotency_conflict" 409

/-- A stored row answers the request with its digest, and refuses others. -/
theorem replay_eq {audit : Audit} {e : Execution} (h : e.IsStored audit)
    (hreceipt : e.receipt.isObj = true) (requestDigest : String) :
    replay audit requestDigest =
      if requestDigest = e.requestDigest then .ok e.receipt else .error idempotencyConflict := by
  obtain ⟨hstatus, houtput, hdata⟩ := h
  rw [replay, hdata, hstatus, houtput, Option.filter_some, if_pos hreceipt]
  by_cases hsame : requestDigest = e.requestDigest
  · simp [hsame]
  · simp [hsame, Ne.symm hsame, idempotencyConflict]

theorem isObj_of_executeIntent {intent : Intent} {requestId requestDigest : String} {receipt : Json}
    (h : executeIntent session view outcome intent requestId requestDigest = .ok receipt) :
    receipt.isObj = true := by
  unfold executeIntent at h
  split at h
  · obtain ⟨_, -, h⟩ := Proc.bind_eq_ok.mp h
    obtain ⟨saved, -, h⟩ := Proc.bind_eq_ok.mp h
    obtain rfl := Except.ok.inj h
    rfl
  · obtain ⟨saved, -, h⟩ := Proc.bind_eq_ok.mp h
    obtain rfl := Except.ok.inj h
    rfl

/-- A request changes nothing, or is answered with the receipt of an execution, which is one that is
stored or a new one whose name was free. -/
theorem applyDraft_cases (h : site.Sound) :
    (∃ failure, (applyDraft platform sameNumber session view outcome request).run site =
      (.error failure, site)) ∨
    ∃ e, Answers platform request session.site e ∧
      ((applyDraft platform sameNumber session view outcome request).run site =
          (.ok e.receipt, site) ∧ e ∈ site.executions ∨
        ∃ authorized completed, site.audits.get? e.auditName = none ∧ e.IsStored completed ∧
          e.receipt.isObj = true ∧ (applyDraft platform sameNumber session view outcome request).run site =
            (.ok e.receipt, site.execute e authorized completed)) := by
  rw [applyDraft, Proc.run_atomically, Proc.run_lift_bind]
  cases hpayload : object platform (some request.payload) "payload" with
  | error failure => exact .inl ⟨failure, rfl⟩
  | ok payload =>
      dsimp only
      rw [Proc.run_lift_bind]
      cases hcheck : checkApply platform session request payload with
      | error failure => exact .inl ⟨failure, rfl⟩
      | ok checked =>
          obtain ⟨requestId, requestDigest, intent⟩ := checked
          dsimp only
          obtain ⟨hsite, hid, hdigest⟩ := checkApply_eq_ok hcheck
          have hanswers : ∀ e : Execution, e.requestDigest = requestDigest →
              e.auditName = auditName platform (payloadText payload "site_id")
                (payloadText payload "auth_ref") requestId →
              Answers platform request session.site e := fun e hedigest hname =>
            ⟨payload, requestId, hpayload, hsite, hid, by rw [hedigest, hdigest], hname⟩
          rw [runIdempotent, Proc.run_get_bind]
          cases haudit : site.audits.get? (auditName platform (payloadText payload "site_id")
              (payloadText payload "auth_ref") requestId) with
          | some audit =>
              obtain ⟨e, he, hname, hstored⟩ := h.audits _ _ haudit
              dsimp only
              rw [Proc.run_lift, replay_eq hstored (h.receipts e he)]
              by_cases hsame : requestDigest = e.requestDigest
              · rw [if_pos hsame]
                exact .inr ⟨e, hanswers e hsame.symm hname, .inl ⟨rfl, he⟩⟩
              · rw [if_neg hsame]
                exact .inl ⟨idempotencyConflict, rfl⟩
          | none =>
              dsimp only
              rw [Proc.run_lift_bind]
              cases validateIntent platform sameNumber view intent with
              | error failure => exact .inl ⟨failure, rfl⟩
              | ok checked =>
                  dsimp only
                  rw [Proc.run_modify_bind, Proc.run_lift_bind]
                  cases hexecute : executeIntent session view outcome checked requestId
                      requestDigest with
                  | error failure => exact .inl ⟨failure, rfl⟩
                  | ok receipt =>
                      refine .inr ⟨⟨_, requestDigest, checked, receipt⟩, hanswers _ rfl rfl, .inr
                        ⟨authorized session payload requestId requestDigest, _, haudit, ?_,
                          isObj_of_executeIntent hexecute, rfl⟩⟩
                      exact ⟨rfl, rfl, rfl⟩

/-! ## Responses -/

def Site.Grows (s t : Site) : Prop := ∀ e ∈ s.executions, e ∈ t.executions

/-- The response says what the request came to: an exception, or the receipt of an execution. -/
def Truthful (platform : Platform) (request : Request) (executions : List Execution) (site : String)
    (response : Response) : Prop :=
  (∃ failure, response = respond (.error failure)) ∨
    ∃ e ∈ executions, Answers platform request site e ∧ response = respond (.ok e.receipt)

/-- A site that serves a request stays sound and forgets no execution, and its response says what
the request came to. -/
theorem serve_spec (h : site.Sound) {response : Response}
    (hserve : serve platform sameNumber session view outcome request site = (response, site')) :
    site'.Sound ∧ site.Grows site' ∧
      Truthful platform request site'.executions session.site response := by
  unfold serve at hserve
  rcases @applyDraft_cases platform sameNumber session view outcome request site h with
    ⟨failure, hrun⟩ | ⟨e, hanswers, ⟨hrun, hmem⟩ | ⟨authorized, completed, hfree, hstored, hreceipt, hrun⟩⟩
  · rw [hrun] at hserve
    obtain ⟨rfl, rfl⟩ := Prod.mk.inj hserve
    exact ⟨h, fun _ he => he, .inl ⟨failure, rfl⟩⟩
  · rw [hrun] at hserve
    obtain ⟨rfl, rfl⟩ := Prod.mk.inj hserve
    exact ⟨h, fun _ he => he, .inr ⟨e, hmem, hanswers, rfl⟩⟩
  · rw [hrun] at hserve
    obtain ⟨rfl, rfl⟩ := Prod.mk.inj hserve
    refine ⟨h.execute hfree hstored hreceipt, fun _ he => List.mem_append_left _ he, .inr ⟨e, ?_, hanswers, rfl⟩⟩
    exact List.mem_append_right _ (List.mem_singleton.mpr rfl)

/-! ## Runs of a site -/

/-- A request with what Frappe knows of it, the documents during it, and what its document comes to. -/
structure Input where
  session : Session
  view : View
  outcome : Except Failure Saved
  request : Request

def machine (platform : Platform) (sameNumber : List Char → List Char → Bool) :
    Machine Site Input Response where
  step site x := serve platform sameNumber x.session x.view x.outcome x.request site

/-- The request passes the checks before its execution, under the name of one that was executed. -/
def Input.Names (platform : Platform) (x : Input) (requestDigest : String) (e : Execution) : Prop :=
  ∃ payload requestId intent, object platform (some x.request.payload) "payload" = .ok payload ∧
    checkApply platform x.session x.request payload = .ok (requestId, requestDigest, intent) ∧
    e.auditName = auditName platform (payloadText payload "site_id") (payloadText payload "auth_ref")
      requestId

theorem step_spec (h : site.Sound) (x : Input) :
    ((machine platform sameNumber).step site x).2.Sound ∧
      site.Grows ((machine platform sameNumber).step site x).2 :=
  have hspec := serve_spec h (rfl : (machine platform sameNumber).step site x = _)
  ⟨hspec.1, hspec.2.1⟩

theorem sound_final (inputs : List Input) :
    ((machine platform sameNumber).final {} inputs).Sound := by
  have hreach : (machine platform sameNumber).Reachable {}
      ((machine platform sameNumber).final {} inputs) := ⟨inputs, rfl⟩
  exact Machine.Reachable.invariant (P := fun s => s.Sound) (fun _ x h => (step_spec h x).1)
    hreach sound_empty

/-- A request under the name of an execution is answered from it or refused. -/
theorem step_of_names (h : site.Sound) {e : Execution} (he : e ∈ site.executions) {x : Input}
    {requestDigest : String} (hnames : x.Names platform requestDigest e) :
    (machine platform sameNumber).step site x =
      (respond (if requestDigest = e.requestDigest then .ok e.receipt
        else .error idempotencyConflict), site) := by
  obtain ⟨payload, requestId, intent, hpayload, hcheck, hname⟩ := hnames
  obtain ⟨audit, haudit⟩ := h.stored e he
  obtain ⟨e', he', hname', hstored⟩ := h.audits _ _ haudit
  obtain rfl := List.inj_on_of_nodup_map h.once he' he hname'
  have hrun : (applyDraft platform sameNumber x.session x.view x.outcome x.request).run site =
      (if requestDigest = e'.requestDigest then .ok e'.receipt else .error idempotencyConflict,
        site) := by
    rw [hname] at haudit
    rw [applyDraft, Proc.run_atomically, Proc.run_lift_bind, hpayload]
    dsimp only
    rw [Proc.run_lift_bind, hcheck]
    dsimp only
    rw [runIdempotent, Proc.run_get_bind, haudit]
    dsimp only
    rw [Proc.run_lift, replay_eq hstored (h.receipts e' he)]
    by_cases hsame : requestDigest = e'.requestDigest
    · rw [if_pos hsame]
    · rw [if_neg hsame]
  change serve platform sameNumber x.session x.view x.outcome x.request site = _
  rw [serve, hrun]

/-- A request executes its intent, or changes nothing. -/
theorem step_executions (h : site.Sound) (x : Input) :
    ((machine platform sameNumber).step site x).2 = site ∨ ∃ e,
      ((machine platform sameNumber).step site x).2.executions = site.executions ++ [e] ∧
      Answers platform x.request x.session.site e ∧
      ((machine platform sameNumber).step site x).1 = respond (.ok e.receipt) := by
  change (serve platform sameNumber x.session x.view x.outcome x.request site).2 = site ∨ ∃ e,
    (serve platform sameNumber x.session x.view x.outcome x.request site).2.executions = _ ∧ _ ∧
      (serve platform sameNumber x.session x.view x.outcome x.request site).1 = _
  unfold serve
  rcases @applyDraft_cases platform sameNumber x.session x.view x.outcome x.request site h with
    ⟨failure, hrun⟩ | ⟨e, hanswers, ⟨hrun, -⟩ | ⟨authorized, completed, -, -, -, hrun⟩⟩
  · rw [hrun]
    exact .inl rfl
  · rw [hrun]
    exact .inl rfl
  · rw [hrun]
    exact .inr ⟨e, rfl, hanswers, rfl⟩

/-- **A name is executed once.** In every run of requests each name is executed at most once, a
request changes nothing unless it is executed and answered with its receipt, and an execution
answers every later request of its name: with its receipt, or with a conflict where the digest is
another one. -/
theorem run_serves (platform : Platform) (sameNumber : List Char → List Char → Bool)
    (before after : List Input) :
    let s := (machine platform sameNumber).final {} before
    let t := (machine platform sameNumber).final {} (before ++ after)
    (t.executions.map Execution.auditName).Nodup ∧
    (∀ x, ((machine platform sameNumber).step t x).2 = t ∨ ∃ e,
      ((machine platform sameNumber).step t x).2.executions = t.executions ++ [e] ∧
      Answers platform x.request x.session.site e ∧
      ((machine platform sameNumber).step t x).1 = respond (.ok e.receipt)) ∧
    ∀ e ∈ s.executions, ∀ x requestDigest, x.Names platform requestDigest e →
      (machine platform sameNumber).step t x =
        (respond (if requestDigest = e.requestDigest then .ok e.receipt
          else .error idempotencyConflict), t) := by
  intro s t
  have hs : s.Sound := sound_final before
  have ht : t.Sound := sound_final (before ++ after)
  have hgrows : s.Grows t := by
    have hreach : (machine platform sameNumber).Reachable s t :=
      ⟨after, ((machine platform sameNumber).final_append {} before after).symm⟩
    exact hreach.relation (fun _ x h => (step_spec h x).1) (fun _ _ he => he)
      (fun _ _ _ h h' e he => h' e (h e he)) (fun _ x h => (step_spec h x).2) hs
  exact ⟨ht.once, fun x => step_executions ht x,
    fun e he x requestDigest hnames => step_of_names ht (hgrows e he) hnames⟩

end EsanGbos.App.Materialization
