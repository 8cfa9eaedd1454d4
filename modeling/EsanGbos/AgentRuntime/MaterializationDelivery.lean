import EsanGbos.Lib.Endings
import EsanGbos.App.MaterializationOnce
import EsanGbos.AgentRuntime.MaterializationRuns
import EsanGbos.AgentRuntime.MaterializationWorker

/-!
# What workers deliver

However workers, clocks, messages and faults interleave, a request is executed at most once, and a
row that has succeeded holds the receipt of the execution that its request was answered with.

## Main definitions

* `Drafted` — the execution that a receipt of a materialization is of.
* `System.Sound`, `Keeps` — the invariant, and what every step keeps.

## Main results

* `holds_runOnce` — a worker keeps its side of the contract.
* `run_deliveries` — in every interleaving what succeeded has been drafted, once.
-/
namespace EsanGbos.AgentRuntime.Materialization
open Lib
open App.Materialization (Site Execution Answers Truthful)

/-! ## Rows that are done -/

section Done
variable {py : Stdlib} {collation : Collation} {s : Store} {key : String × String}
  {receipt : FrappeDraftReceipt} {p q : Phase}

/-- A row is in one phase. -/
theorem Shows.eq {row? : Option OutboxRow} (hp : Shows row? p) (hq : Shows row? q) : p = q := by
  cases hp with
  | absent => cases hq; rfl
  | waiting hstatus hattempt =>
      cases hq with
      | waiting _ hattempt' =>
          obtain rfl := Int.ofNat_inj.mp (hattempt.symm.trans hattempt')
          rfl
      | held hstatus' | done hstatus' | dead hstatus' => simp [hstatus'] at hstatus
  | held hstatus hattempt howner =>
      cases hq with
      | held _ hattempt' howner' =>
          obtain rfl := Int.ofNat_inj.mp (hattempt.symm.trans hattempt')
          obtain rfl := Option.some.inj (howner.symm.trans howner')
          rfl
      | waiting hstatus' => simp [hstatus] at hstatus'
      | done hstatus' | dead hstatus' => rw [hstatus] at hstatus'; cases hstatus'
  | done hstatus hreceipt =>
      cases hq with
      | done _ hreceipt' =>
          obtain rfl := Except.ok.inj (hreceipt.symm.trans hreceipt')
          rfl
      | waiting hstatus' => simp [hstatus] at hstatus'
      | held hstatus' | dead hstatus' => rw [hstatus] at hstatus'; cases hstatus'
  | dead hstatus =>
      cases hq with
      | dead => rfl
      | waiting hstatus' => simp [hstatus] at hstatus'
      | held hstatus' | done hstatus' => rw [hstatus] at hstatus'; cases hstatus'

/-- The row of a materialization is done with the receipt. -/
def IsDone (s : Store) (key : String × String) (receipt : FrappeDraftReceipt) : Prop :=
  Shows (s.outbox.get? key) (.done receipt)

/-- What is done stays done. -/
theorem isDone_step (hs : s.Sound) (h : IsDone s key receipt) (c : Call) :
    IsDone ((machine py collation).step s c).2 key receipt := by
  obtain ⟨q, hq, hstep | ⟨-, rfl⟩⟩ := @follows_step py collation s key _ hs h c
  · generalize observe py key (c, ((machine py collation).step s c).1) = e at hstep
    cases hstep
    exact hq
  · exact hq

/-- A completion that is seen is an acknowledgement. -/
theorem of_observe_completed {c : Call} {answer : Except MaterializationError Answer} {n : ℤ}
    {workerId : String} (h : observe py key (c, answer) = some (.completed n workerId receipt)) :
    ∃ now receipt', c = .acknowledge key workerId n now receipt' ∧
      answer = .ok (.acknowledged receipt) := by
  unfold observe at h
  split at h
  next => split at h <;> cases h
  next => split at h <;> cases h
  next => split at h <;> cases h
  next key' workerId' n' now receipt' r heq =>
    split at h
    next hkey =>
      subst hkey
      obtain ⟨rfl, rfl⟩ := Prod.mk.inj heq
      cases h
      exact ⟨now, receipt', rfl, rfl⟩
    next => cases h
  next => split at h <;> cases h
  next => cases h

/-- An acknowledgement is answered with its receipt. -/
theorem acknowledge_answers (hs : s.Sound) {workerId : String} {attempt : ℤ} {now : Option Datetime}
    {receipt' : FrappeDraftReceipt}
    (h : ((acknowledgeMaterialization key workerId attempt now receipt').run s).1 = .ok receipt) :
    receipt' = receipt := by
  rcases @run_acknowledge s key workerId hs attempt now receipt' with
    ⟨e, -, hrun⟩ | ⟨row, -, -, -, hrun⟩ | ⟨now', row, -, -, -, -, hrun⟩
  all_goals
    rw [hrun] at h
    cases h
  · rfl
  · rfl

/-- A row becomes done by the acknowledgement of its receipt. -/
theorem isDone_of_step (hs : s.Sound) (hp : Shows (s.outbox.get? key) p) (c : Call)
    (h : IsDone ((machine py collation).step s c).2 key receipt) :
    IsDone s key receipt ∨ ∃ workerId attempt now, c = .acknowledge key workerId attempt now receipt := by
  obtain ⟨q, hq, hstep⟩ := @follows_step py collation s key p hs hp c
  obtain rfl := hq.eq h
  rcases hstep with hstep | ⟨-, rfl⟩
  swap
  · exact .inl hp
  generalize hseen : observe py key (c, ((machine py collation).step s c).1) = e at hstep
  cases hstep with
  | again => exact .inl hp
  | complete n workerId =>
      obtain ⟨now, receipt', rfl, hanswer⟩ := of_observe_completed hseen
      change ((Answer.acknowledged <$> acknowledgeMaterialization key workerId n now receipt').run
        s).1 = _ at hanswer
      rw [Proc.run_map] at hanswer
      cases hrun : ((acknowledgeMaterialization key workerId n now receipt').run s).1 with
      | error e =>
          rw [hrun] at hanswer
          cases hanswer
      | ok r =>
          rw [hrun] at hanswer
          cases hanswer
          obtain rfl := acknowledge_answers hs hrun
          exact .inr ⟨workerId, n, now, rfl⟩

/-- An acknowledgement that is answered leaves its row done. -/
theorem isDone_acknowledge (hs : s.Sound) {workerId : String} {attempt : ℤ} {now : Option Datetime}
    {answer : FrappeDraftReceipt} {t : Store}
    (h : (acknowledgeMaterialization key workerId attempt now receipt).run s = (.ok answer, t)) :
    IsDone t key receipt := by
  rcases @run_acknowledge s key workerId hs attempt now receipt with
    ⟨e, -, hrun⟩ | ⟨row, hget, hstatus, hstored, hrun⟩ | ⟨now', row, -, -, -, -, hrun⟩
  · cases hrun.symm.trans h
  · obtain ⟨-, rfl⟩ := Prod.mk.inj (hrun.symm.trans h)
    rw [IsDone, hget]
    exact .done hstatus hstored
  · obtain ⟨-, rfl⟩ := Prod.mk.inj (hrun.symm.trans h)
    rw [IsDone, Store.outbox_put, Dict.get?_set_self]
    exact .done rfl (storedReceipt_setSucceeded receipt now'.instant row)

/-- A claim is of the site it was asked for. -/
theorem siteId_of_claim (hs : s.Sound) {locked : String × String → Bool} {siteId workerId : String}
    {now : Option Datetime} {leaseDuration : Timedelta} {claim : MaterializationClaim}
    (h : ((claimMaterialization collation locked siteId workerId now leaseDuration).run s).1 =
      .ok (some claim)) : claim.siteId = siteId := by
  rcases @run_claim s collation locked siteId workerId hs now leaseDuration with
    ⟨⟨e, hrun⟩, -⟩ | ⟨hrun, -⟩ | ⟨now', expiry, -, -, -, hrun⟩
  · rw [hrun] at h
    cases h
  · rw [hrun] at h
    cases h
  · rw [hrun, takeCandidate] at h
    cases hcandidate : candidate collation locked siteId now'.instant
        (s.swept siteId now'.instant).outbox with
    | none =>
        rw [hcandidate] at h
        cases h
    | some e =>
        obtain ⟨-, hdue, -⟩ := candidate_spec hcandidate
        rw [hcandidate] at h
        dsimp only at h
        cases hclaim : claimOf (s.swept siteId now'.instant) e.1
            (setClaimed workerId now'.instant expiry.instant e.2) workerId expiry.instant with
        | error err =>
            rw [hclaim] at h
            cases h
        | ok claim' =>
            rw [hclaim] at h
            cases h
            obtain ⟨hkey, -⟩ := claimOf_spec hclaim
            exact (congrArg Prod.fst hkey).trans (isDue_iff.mp hdue).1

end Done

/-! ## The system -/

/-- The receipt is that of an execution of the materialization's request. -/
def Drafted (platform : App.Platform) (s : System) (key : String × String)
    (receipt : FrappeDraftReceipt) : Prop :=
  receipt.requestId = key.2 ∧ ∃ authRef, ∃ e ∈ (s.sites key.1).executions,
    e.auditName = App.Materialization.auditName platform key.1 authRef key.2 ∧
      e.requestDigest = receipt.requestDigest ∧ readReceipt e.receipt = .ok receipt

structure System.Sound (platform : App.Platform) (s : System) : Prop where
  store : s.store.Sound
  shows : ∀ key, ∃ p, Shows (s.store.outbox.get? key) p
  sites : ∀ site, (s.sites site).Sound
  drafted : ∀ key receipt, IsDone s.store key receipt → Drafted platform s key receipt
  answered : ∀ n response, (n, response) ∈ s.responses → ∃ request site,
    s.messages[n]? = some request ∧ Truthful platform request (s.sites site).executions site response

/-- What every step keeps. -/
structure Keeps (s t : System) : Prop where
  done : ∀ key receipt, IsDone s.store key receipt → IsDone t.store key receipt
  sites : ∀ site, (s.sites site).Grows (t.sites site)
  messages : ∀ (n : ℕ) (request : HttpRequest), s.messages[n]? = some request →
    t.messages[n]? = some request

theorem Keeps.refl (s : System) : Keeps s s :=
  ⟨fun _ _ h => h, fun _ _ h => h, fun _ _ h => h⟩

theorem Keeps.trans {s t u : System} (h : Keeps s t) (h' : Keeps t u) : Keeps s u :=
  ⟨fun key receipt hdone => h'.done key receipt (h.done key receipt hdone),
    fun site e he => h'.sites site e (h.sites site e he),
    fun n request hn => h'.messages n request (h.messages n request hn)⟩

section System
variable {py : Stdlib} {platform : App.Platform} {collation : Collation} {s t : System}
  {key : String × String} {receipt : FrappeDraftReceipt}

theorem Drafted.of_sites (h : Drafted platform s key receipt)
    (hsites : ∀ site, (s.sites site).Grows (t.sites site)) : Drafted platform t key receipt := by
  obtain ⟨hid, authRef, e, he, h⟩ := h
  exact ⟨hid, authRef, e, hsites key.1 e he, h⟩

/-! What the calls of a worker do to the store is what the calls of the outbox do. -/

theorem step_snd {α : Type} {f : α → Answer} {x : Op α} {c : Call} (h : perform py collation c = f <$> x)
    (s : Store) : ((machine py collation).step s c).2 = (x.run s).2 := by
  change ((perform py collation c).run s).2 = _
  rw [h, Proc.run_map]

/-- A call on the outbox keeps the system sound, if what it acknowledges has been drafted. -/
theorem System.Sound.perform (h : s.Sound platform) (c : Call)
    (hdrafted : ∀ key workerId attempt now receipt,
      c = .acknowledge key workerId attempt now receipt → Drafted platform s key receipt) :
    ({ s with store := ((machine py collation).step s.store c).2 } : System).Sound platform ∧
      Keeps s { s with store := ((machine py collation).step s.store c).2 } := by
  have hkeeps : Keeps s { s with store := ((machine py collation).step s.store c).2 } :=
    ⟨fun key receipt hdone => isDone_step h.store hdone c, fun _ _ he => he, fun _ _ hn => hn⟩
  refine ⟨⟨h.store.step c, fun key => ?_, h.sites, fun key receipt hdone => ?_, h.answered⟩, hkeeps⟩
  · obtain ⟨p, hp⟩ := h.shows key
    obtain ⟨q, hq, -⟩ := @follows_step py collation s.store key p h.store hp c
    exact ⟨q, hq⟩
  · obtain ⟨p, hp⟩ := h.shows key
    rcases isDone_of_step h.store hp c hdone with hold | ⟨workerId, attempt, now, rfl⟩
    · exact (h.drafted key receipt hold).of_sites hkeeps.sites
    · exact (hdrafted key workerId attempt now receipt rfl).of_sites hkeeps.sites

/-- So does a message that is sent. -/
theorem System.Sound.send (h : s.Sound platform) (request : HttpRequest) :
    ({ s with messages := s.messages ++ [request] } : System).Sound platform ∧
      Keeps s { s with messages := s.messages ++ [request] } := by
  have hmessages : ∀ n request', s.messages[n]? = some request' →
      (s.messages ++ [request])[n]? = some request' := fun n request' hn =>
    List.getElem?_append_left (List.getElem?_eq_some_iff.mp hn).1 ▸ hn
  refine ⟨⟨h.store, h.shows, h.sites, h.drafted, fun n response hmem => ?_⟩,
    ⟨fun _ _ hdone => hdone, fun _ _ he => he, hmessages⟩⟩
  obtain ⟨request', site, hn, htruthful⟩ := h.answered n response hmem
  exact ⟨request', site, hmessages n request' hn, htruthful⟩

theorem truthful_grows {request : HttpRequest} {site site' : Site} {name : String}
    {response : HttpResponse} (h : Truthful platform request site.executions name response)
    (hgrows : site.Grows site') : Truthful platform request site'.executions name response := by
  rcases h with hfailure | ⟨e, he, hanswers⟩
  · exact .inl hfailure
  · exact .inr ⟨e, hgrows e he, hanswers⟩

/-- So does a site that serves a message. -/
theorem System.Sound.serve (h : s.Sound platform) {n : ℕ} {request : HttpRequest} {name : String}
    {site : Site} {response : HttpResponse} (hn : s.messages[n]? = some request) (hsound : site.Sound)
    (hgrows : (s.sites name).Grows site)
    (htruthful : Truthful platform request site.executions name response) :
    ({ s with sites := Function.update s.sites name site,
              responses := s.responses ++ [(n, response)] } : System).Sound platform ∧
      Keeps s { s with sites := Function.update s.sites name site,
                       responses := s.responses ++ [(n, response)] } := by
  have hsites : ∀ name', (s.sites name').Grows (Function.update s.sites name site name') := by
    intro name' e he
    by_cases hname : name' = name
    · subst hname
      rw [Function.update_self]
      exact hgrows e he
    · rwa [Function.update_of_ne hname]
  refine ⟨⟨h.store, h.shows, fun name' => ?_, fun key receipt hdone =>
    (h.drafted key receipt hdone).of_sites hsites, fun m response' hmem => ?_⟩,
    ⟨fun _ _ hdone => hdone, hsites, fun _ _ hm => hm⟩⟩
  · by_cases hname : name' = name
    · subst hname
      simpa using hsound
    · simpa [hname] using h.sites name'
  · rcases List.mem_append.mp hmem with hold | hnew
    · obtain ⟨request', name', hm, hold⟩ := h.answered m response' hold
      exact ⟨request', name', hm, truthful_grows hold (hsites name')⟩
    · obtain ⟨rfl, rfl⟩ := Prod.mk.inj (List.mem_singleton.mp hnew)
      exact ⟨request, name, hn, by simpa using htruthful⟩

/-- What happens besides keeps the system sound. -/
theorem System.Sound.others {sameNumber : List Char → List Char → Bool} (h : s.Sound platform)
    (command : Command) :
    (others py platform sameNumber command s).Sound platform ∧
      Keeps s (others py platform sameNumber command s) := by
  cases command with
  | enqueue bundle now =>
      have hstep := @System.Sound.perform py platform codePoints s h (.enqueue bundle now) (by simp)
      rwa [step_snd rfl] at hstep
  | post request => exact h.send request
  | serve n session view outcome =>
      cases hn : s.messages[n]? with
      | none =>
          simp only [Materialization.others, hn]
          exact ⟨h, .refl s⟩
      | some request =>
          simp only [Materialization.others, hn]
          obtain ⟨hsound, hgrows, htruthful⟩ := App.Materialization.serve_spec (h.sites session.site)
            (rfl : App.Materialization.serve platform sameNumber session view outcome request
              (s.sites session.site) = _)
          exact h.serve hn hsound hgrows htruthful

end System

/-! ## Calls of a worker -/

/-- The contract of the workers. -/
def contract (py : Stdlib) (platform : App.Platform) (ι : Type) :
    Contract WorkerCall ι (Choice py) System where
  rely _ := Keeps
  guar _ s t := t.Sound platform ∧ Keeps s t
  allowed _ _ _ s := s.Sound platform
  rely_refl _ := .refl
  rely_trans _ _ _ _ := Keeps.trans

section Calls
variable {py : Stdlib} {platform : App.Platform} {collation : Collation} {ι : Type} {i : ι}
  {s t : System} {key : String × String} {receipt : FrappeDraftReceipt} {α β : Type}

/-- A worker keeps its side of the contract, and ends with `Q`. -/
abbrev Holds (platform : App.Platform) (collation : Collation) (i : ι)
    (Q : Except MaterializationError α → System → Prop) (p : Work py α) (s : System) : Prop :=
  p.Holds (exec py collation) (contract py platform ι) i Q s

theorem withFault_cases (fault : Option Fault) (s : System)
    (r : Except MaterializationError α × System) :
    withFault fault s r = r ∨ ∃ e, withFault fault s r = (.error e, s) ∨
      withFault fault s r = (.error e, r.2) := by
  cases fault with
  | none => exact .inl rfl
  | some fault =>
      cases fault with
      | before e => exact .inr ⟨e, .inl rfl⟩
      | after e => exact .inr ⟨e, .inr rfl⟩

/-- The call acknowledges only what has been drafted. -/
def MayCall (platform : App.Platform) (s : System) : WorkerCall → Prop
  | .acknowledge key _ _ _ receipt => Drafted platform s key receipt
  | _ => True

/-- What a call does where there is no fault. -/
def plainly (py : Stdlib) (collation : Collation) (x : Choice py) (c : WorkerCall) (s : System) :
    Except MaterializationError (c.Answer py) × System :=
  exec py collation () { x with fault := none } c s

theorem exec_eq (x : Choice py) (c : WorkerCall) (s : System) :
    exec py collation i x c s = withFault x.fault s (plainly py collation x c s) := by
  cases c <;> rfl

theorem plainly_sound (h : s.Sound platform) (x : Choice py) {c : WorkerCall}
    (hc : MayCall platform s c) : (plainly py collation x c s).2.Sound platform ∧
      Keeps s (plainly py collation x c s).2 := by
  cases c with
  | clock | resolve | receive => exact ⟨h, .refl s⟩
  | send request => exact h.send request
  | claim siteId workerId now leaseDuration =>
      have hstep := @System.Sound.perform py platform collation s h
        (.claim x.locked siteId workerId now leaseDuration) (by simp)
      rwa [step_snd rfl] at hstep
  | heartbeat key workerId attempt now leaseDuration =>
      have hstep := @System.Sound.perform py platform collation s h
        (.heartbeat key workerId attempt now leaseDuration) (by simp)
      rwa [step_snd rfl] at hstep
  | acknowledge key workerId attempt now receipt =>
      have hstep := @System.Sound.perform py platform collation s h
        (.acknowledge key workerId attempt now receipt) (by rintro _ _ _ _ _ ⟨⟩; exact hc)
      rwa [step_snd rfl] at hstep
  | fail key workerId attempt now retryAt errorCode =>
      have hstep := @System.Sound.perform py platform collation s h
        (.fail key workerId attempt now retryAt errorCode) (by simp)
      rwa [step_snd rfl] at hstep

/-- A call that may be made keeps the contract; `Q` is about its answer where there is no fault. -/
theorem holds_invoke {c : WorkerCall} {Q : Except MaterializationError (c.Answer py) → System → Prop}
    (hc : ∀ t, Keeps s t → MayCall platform t c)
    (hok : ∀ t x, Keeps s t → t.Sound platform → ∀ a u, plainly py collation x c t = (.ok a, u) →
      Q (.ok a) u)
    (herror : ∀ e t, Q (.error e) t) : Holds platform collation i Q (Prog.invoke c) s := by
  apply Prog.Holds.invoke
  intro t hst x hsound
  obtain ⟨hnext, hkeeps⟩ : (plainly py collation x c t).2.Sound platform ∧
    Keeps t (plainly py collation x c t).2 := plainly_sound hsound x (hc t hst)
  rw [exec_eq]
  rcases withFault_cases x.fault t (plainly py collation x c t) with heq | ⟨e, heq | heq⟩
  · rw [heq]
    refine ⟨⟨hnext, hkeeps⟩, ?_⟩
    cases hrun : plainly py collation x c t with
    | mk r u =>
        cases r with
        | ok a => exact hok t x hst hsound a u hrun
        | error e => exact herror e u
  · rw [heq]
    exact ⟨⟨hsound, .refl t⟩, herror e t⟩
  · rw [heq]
    exact ⟨⟨hnext, hkeeps⟩, herror e _⟩

/-- A check between two calls. -/
theorem holds_done_bind {Q : Except MaterializationError β → System → Prop}
    {x : Except MaterializationError α} {f : α → Work py β}
    (hok : ∀ a, x = .ok a → Holds platform collation i Q (f a) s)
    (herror : ∀ e, Q (.error e) s) : Holds platform collation i Q (.done x >>= f) s := by
  cases x with
  | ok a => exact hok a rfl
  | error e => exact herror e

end Calls

/-! ## The client -/

section Client
variable {py : Stdlib} {platform : App.Platform} {collation : Collation} {ι : Type} {i : ι}
  {s t : System} {client : Client} {request : HttpRequest}

/-- The body of a response is the receipt of an execution, or no receipt at all. -/
def Delivered (platform : App.Platform) (s : System) (request : HttpRequest) (body : Json) : Prop :=
  (∃ site, ∃ e ∈ (s.sites site).executions, Answers platform request site e ∧ body = e.receipt) ∨
    ∀ receipt, readReceipt body ≠ .ok receipt

theorem header_eq_ok {value fieldName value' : String} (h : header value fieldName = .ok value') :
    value' = value := by
  unfold header at h
  split at h
  · cases h
  · exact (Except.ok.inj h).symm

/-- A document without a kind is no receipt. -/
theorem readReceipt_ne_ok {body : Json} (h : body.get? "doctype" = none)
    (receipt : FrappeDraftReceipt) : readReceipt body ≠ .ok receipt := by
  rw [readReceipt, h]
  simp

theorem unwrapMessage_message {message body : Json}
    (h : unwrapMessage (.obj [("message", message)]) = .ok body) :
    body = message ∨ ∀ receipt, readReceipt body ≠ .ok receipt := by
  unfold unwrapMessage at h
  split at h
  next =>
    obtain rfl := Except.ok.inj h
    exact .inr (readReceipt_ne_ok rfl)
  next =>
    obtain rfl := Except.ok.inj h
    exact .inr (readReceipt_ne_ok rfl)
  next message' hmessage =>
    split at h
    next =>
      obtain rfl := Except.ok.inj h
      exact .inl (Option.some.inj hmessage).symm
    next => cases h

/-- What comes of a response is the receipt that it was made of, or no receipt. -/
theorem readResponse_respond {r : Except App.Materialization.Failure Json} {body : Json}
    (h : readResponse (App.Materialization.respond r) = .ok body) :
    r = .ok body ∨ ∀ receipt, readReceipt body ≠ .ok receipt := by
  obtain ⟨-, h⟩ := Proc.ite_throw_eq_ok.mp h
  obtain ⟨-, h⟩ := Proc.ite_else_throw_eq_ok.mp h
  obtain ⟨body', hunwrap, h⟩ := Proc.bind_eq_ok.mp h
  have hbody : body' = body := by
    split at h
    · exact Except.ok.inj h
    · obtain ⟨-, h⟩ := Proc.ite_throw_eq_ok.mp h
      cases h
  subst hbody
  cases r with
  | ok receipt =>
      rcases unwrapMessage_message hunwrap with rfl | hnone
      · exact .inl rfl
      · exact .inr hnone
  | error failure =>
      rcases unwrapMessage_message hunwrap with rfl | hnone
      · exact .inr (readReceipt_ne_ok rfl)
      · exact .inr hnone

/-- What arrives for a message is a response to it. -/
theorem mem_of_arrival {n : ℕ} {arrives : Option ℕ} {response : HttpResponse}
    (h : arrival s n arrives = .ok response) : (n, response) ∈ s.responses := by
  unfold arrival at h
  split at h
  next message response' hsome =>
    obtain ⟨k, -, hk⟩ := Option.bind_eq_some_iff.mp hsome
    split at h
    next hmessage =>
      obtain rfl := Except.ok.inj h
      exact hmessage ▸ List.mem_of_getElem? hk
    next => cases h
  next => cases h

theorem holds_post (purpose requestId : String) (payload : Json) :
    Holds platform collation i (fun r t => ∀ body, r = .ok body →
      Delivered platform t ⟨client.headers purpose requestId, payload⟩ body)
      (client.post py purpose requestId payload) s := by
  unfold Client.post
  refine holds_done_bind (fun purpose' hpurpose => ?_) (by simp)
  obtain rfl := header_eq_ok hpurpose
  refine holds_done_bind (fun requestId' hid => ?_) (by simp)
  obtain rfl := header_eq_ok hid
  refine holds_done_bind (fun _ _ => ?_) (by simp)
  refine Prog.Holds.bind (Q := fun r t => ∀ n, r = .ok n →
    t.messages[n]? = some ⟨client.headers purpose' requestId', payload⟩) ?_ ?_ (by simp)
  · refine holds_invoke (fun _ _ => trivial) (fun t x _ _ n u hrun => ?_) (by simp)
    obtain ⟨hn, rfl⟩ := Prod.mk.inj hrun
    obtain rfl := Except.ok.inj hn
    rintro n ⟨⟩
    simp
  · intro n t hn
    have hn := hn n rfl
    refine Prog.Holds.bind (Q := fun r u => ∀ response, r = .ok response → ∃ site,
      Truthful platform ⟨client.headers purpose' requestId', payload⟩ (u.sites site).executions site
        response) ?_ ?_ (by simp)
    · refine holds_invoke (fun _ _ => trivial) (fun u x hkeeps hsound response v hrun => ?_) (by simp)
      obtain ⟨harrival, rfl⟩ := Prod.mk.inj hrun
      rintro _ ⟨⟩
      obtain ⟨request, site, hrequest, htruthful⟩ := hsound.answered n response
        (mem_of_arrival harrival)
      obtain rfl := Option.some.inj ((hkeeps.messages n _ hn).symm.trans hrequest)
      exact ⟨site, htruthful⟩
    · intro response u hresponse
      obtain ⟨site, htruthful⟩ := hresponse response rfl
      change ∀ body, readResponse response = .ok body → _
      intro body hbody
      rcases htruthful with ⟨failure, rfl⟩ | ⟨e, he, hanswers, rfl⟩
      · rcases readResponse_respond hbody with herror | hnone
        · cases herror
        · exact .inr hnone
      · rcases readResponse_respond hbody with hreceipt | hnone
        · exact .inl ⟨site, e, he, hanswers, (Except.ok.inj hreceipt).symm⟩
        · exact .inr hnone

/-- The execution that answers a request of the client is that of its materialization. -/
theorem drafted_of_answers {purpose requestId requestDigest site : String}
    {intent : MaterializationIntent} {e : Execution} {receipt : FrappeDraftReceipt}
    (hanswers : Answers platform ⟨client.headers purpose requestId,
      client.payload purpose requestId requestDigest intent⟩ site e)
    (he : e ∈ (s.sites site).executions) (hreceipt : readReceipt e.receipt = .ok receipt)
    (hid : receipt.requestId = requestId) (hdigest : receipt.requestDigest = requestDigest) :
    Drafted platform s (client.siteId, requestId) receipt := by
  obtain ⟨payload, requestId', hpayload, hsite, hrequest, hdigest', hname⟩ := hanswers
  obtain rfl : client.siteId = site := Option.some.inj hsite
  obtain rfl : requestId = requestId' := Option.some.inj hrequest
  obtain rfl : client.payload purpose requestId requestDigest intent = payload :=
    Except.ok.inj hpayload
  obtain rfl : requestDigest = e.requestDigest := Json.str.inj (Option.some.inj hdigest')
  exact ⟨hid, client.authRef, e, he, hname, hdigest.symm, hreceipt⟩

/-- What the client returns has been drafted. -/
theorem holds_apply (intent : MaterializationIntent)
    (requestId requestDigest processingPurpose : String) :
    Holds platform collation i (fun r t => ∀ receipt, r = .ok receipt →
      Drafted platform t (client.siteId, requestId) receipt)
      (client.apply py intent requestId requestDigest processingPurpose) s := by
  unfold Client.apply
  refine holds_done_bind (fun purpose _ => ?_) (by simp)
  split
  swap
  · exact holds_done_bind (fun _ h => by cases h) (by simp)
  refine (holds_post purpose requestId _).bind (fun body t hbody => ?_) (by simp)
  refine holds_done_bind (fun receipt hreceipt => ?_) (by simp)
  dsimp only
  split
  · exact holds_done_bind (fun _ h => by cases h) (by simp)
  next hmatches =>
    simp only [not_or, not_not] at hmatches
    obtain ⟨-, -, hid, hsame⟩ := hmatches
    rintro _ ⟨⟩
    rcases hbody body rfl with ⟨site, e, he, hanswers, rfl⟩ | hnone
    · exact drafted_of_answers hanswers he hreceipt hid hsame
    · exact absurd hreceipt (hnone receipt)

end Client

/-! ## The worker -/

section Worker
variable {py : Stdlib} {platform : App.Platform} {collation : Collation} {ι : Type} {i : ι}
  {s t : System} {w : Worker} {claim : MaterializationClaim} {floatEq : List Char → ℤ → Bool}

/-- A part of a run of which nothing but the contract matters. -/
theorem holds_invoke_trivial {c : WorkerCall} (hc : ∀ t, MayCall platform t c) :
    Holds platform collation i (fun _ _ => True) (Prog.invoke c : Work py (c.Answer py)) s :=
  holds_invoke (fun t _ => hc t) (fun _ _ _ _ _ _ _ => trivial) fun _ _ => trivial

/-- The clock, which leaves everything as the others keep it. -/
theorem holds_clock : Holds platform collation i (fun _ t => Keeps s t) (clock py) s :=
  Prog.Holds.imp (Prog.Holds.along (holds_invoke_trivial fun _ => trivial) .refl
    (fun _ _ _ => .trans) (fun _ _ h => h) fun _ _ h => h.2) fun _ _ h => h.2

theorem holds_heartbeat :
    Holds platform collation i (fun _ _ => True) (w.heartbeat py claim) s :=
  holds_clock.bind (fun _ _ _ => holds_invoke_trivial fun _ => trivial) fun _ _ _ => trivial

theorem holds_contextOf :
    Holds platform collation i (fun _ _ => True) (Worker.contextOf py claim) s := by
  unfold Worker.contextOf
  split
  · exact trivial
  refine holds_done_bind (fun _ _ => ?_) fun _ => trivial
  refine Prog.Holds.bind (holds_invoke_trivial fun _ => trivial) (fun context t _ => ?_)
    fun _ _ _ => trivial
  cases context <;> trivial

theorem holds_fail (errorCode : String) :
    Holds platform collation i (fun _ _ => True) (w.fail py claim errorCode) s := by
  unfold Worker.fail Worker.retryAt
  refine holds_clock.bind (fun now t _ => ?_) fun _ _ _ => trivial
  refine Prog.Holds.bind (Q := fun _ _ => True) ?_ (fun retryAt u _ =>
    holds_invoke_trivial fun _ => trivial) fun _ _ _ => trivial
  refine holds_clock.bind (fun now' u _ => ?_) fun _ _ _ => trivial
  cases now' with
  | none => trivial
  | some now' =>
      dsimp only
      cases now'.add w.retryDelay <;> trivial

/-- What a worker delivers is done. -/
theorem holds_deliver (hsite : claim.siteId = w.client.siteId) :
    Holds platform collation i (fun r t => r = .ok () → ∃ receipt, IsDone t.store claim.key receipt)
      (w.deliver py floatEq claim) s := by
  unfold Worker.deliver
  refine holds_heartbeat.bind (fun _ s₁ _ => ?_) (by simp)
  refine holds_contextOf.bind (fun context s₂ _ => ?_) (by simp)
  refine holds_done_bind (fun intent _ => ?_) (by simp)
  refine holds_heartbeat.bind (fun _ s₃ _ => ?_) (by simp)
  refine (holds_apply intent _ _ _).bind (fun receipt s₄ hdrafted => ?_) (by simp)
  have hdrafted : Drafted platform s₄ claim.key receipt := by
    rw [MaterializationClaim.key, hsite]
    exact hdrafted receipt rfl
  refine holds_done_bind (fun _ _ => ?_) (by simp)
  refine holds_clock.bind (fun now s₅ hkeeps => ?_) (by simp)
  have hdrafted := hdrafted.of_sites hkeeps.sites
  refine Prog.Holds.bind (Q := fun r t => ∀ a, r = .ok a → IsDone t.store claim.key receipt) ?_
    (fun a u hdone => fun _ => ⟨receipt, hdone a rfl⟩) (by simp)
  refine holds_invoke (fun t hkeeps => hdrafted.of_sites hkeeps.sites)
    (fun t x _ hsound a u hrun => ?_) (by simp)
  rintro _ ⟨⟩
  obtain ⟨hanswer, rfl⟩ := Prod.mk.inj hrun
  exact isDone_acknowledge hsound.store (Prod.ext hanswer rfl)

/-- A result that reports success is about a row that is done. -/
def Reports (r : Except MaterializationError RunResult) (s : System) : Prop :=
  ∀ result, r = .ok result → result.status = .succeeded → ∃ key receipt,
    result.materializationId = some key.2 ∧ IsDone s.store key receipt

theorem holds_recover (e : MaterializationError) :
    Holds platform collation i Reports (w.recover py claim e) s := by
  have hlost : ∀ t, Reports (.ok (claim.result .leaseLost (some "lease_lost"))) t := by
    rintro t _ ⟨⟩ hstatus
    cases hstatus
  unfold Worker.recover
  split
  · exact hlost s
  refine (holds_fail _).attempt_bind fun r t _ => ?_
  split
  next status =>
    rintro _ ⟨⟩ hstatus
    simp only [MaterializationClaim.result] at hstatus
    split at hstatus <;> cases hstatus
  next => exact hlost t
  next =>
    rintro _ ⟨⟩

theorem holds_runOnce :
    Holds platform collation i Reports (w.runOnce py floatEq w.client.siteId) s := by
  unfold Worker.runOnce
  refine holds_clock.bind (fun now t _ => ?_) (by simp [Reports])
  refine Prog.Holds.bind (Q := fun r _ => ∀ claim, r = .ok (some claim) →
    claim.siteId = w.client.siteId) ?_ (fun claim? u hclaim => ?_) (by simp [Reports])
  · refine holds_invoke (fun _ _ => trivial) (fun t x _ hsound a u hrun => ?_) (by simp)
    rintro claim ⟨⟩
    obtain ⟨hanswer, -⟩ := Prod.mk.inj hrun
    exact siteId_of_claim hsound.store hanswer
  · cases claim? with
    | none =>
        rintro _ ⟨⟩ hstatus
        cases hstatus
    | some claim =>
        refine (holds_deliver (hclaim claim rfl)).attempt_bind fun r v hdone => ?_
        cases r with
        | ok _ =>
            obtain ⟨receipt, hdone⟩ := hdone rfl
            rintro _ ⟨⟩ -
            exact ⟨claim.key, receipt, rfl, hdone⟩
        | error e => exact holds_recover e

end Worker

/-! ## Interleavings -/

section Runs
variable {py : Stdlib} {platform : App.Platform} {collation : Collation} {ι : Type} [DecidableEq ι]
  {floatEq : List Char → ℤ → Bool} {sameNumber : List Char → List Char → Bool}

/-- Every worker keeps its side of the contract, and the system is sound. -/
def Orderly (platform : App.Platform) (collation : Collation)
    (s : Pool WorkerCall (WorkerCall.Answer py) MaterializationError RunResult ι System) : Prop :=
  Pool.AllEnd (exec py collation) (contract py platform ι) Reports s ∧ s.shared.Sound platform

theorem Reports.keeps {r : Except MaterializationError RunResult} {s t : System} (h : Reports r s)
    (hkeeps : Keeps s t) : Reports r t := by
  intro result hresult hstatus
  obtain ⟨key, receipt, hid, hdone⟩ := h result hresult hstatus
  exact ⟨key, receipt, hid, hkeeps.done key receipt hdone⟩

omit [DecidableEq ι] in
theorem orderly_idle : Orderly platform collation (idle py ι) := by
  refine ⟨fun i p hp => ?_, sound_empty, fun key => ⟨.absent, .absent⟩,
    fun _ => App.Materialization.sound_empty, fun key receipt hdone => ?_, fun n response hmem => ?_⟩
  · cases hp
  · cases hdone
  · cases hmem

theorem Orderly.step
    {s : Pool WorkerCall (WorkerCall.Answer py) MaterializationError RunResult ι System}
    (h : Orderly platform collation s) (e : Lib.Event ι Worker (Choice py) Command) :
    Orderly platform collation
      ((workers py platform collation floatEq sameNumber ι).step s e).2 := by
  obtain ⟨hall, hsound⟩ := h
  have hallowed : Pool.Allowed (contract py platform ι) (fun _ s => s.Sound platform) s e := by
    cases e with
    | start i w => trivial
    | step i x => exact fun _ _ _ => hsound
    | other command => exact hsound
  refine ⟨hall.step (fun w i s => holds_runOnce) (fun _ _ _ _ _ hguar => hguar.2)
    (fun _ command s hs => (hs.others command).2) (fun _ s t r hkeeps h => h.keeps hkeeps) hallowed, ?_⟩
  cases e with
  | start i w => exact Pool.shared_start (P := System.Sound platform) i w hsound
  | step i x => exact Pool.shared_step (P := System.Sound platform) i x hsound fun c next hrun =>
      (hall.guar hrun hsound).1
  | other command => exact (hsound.others command).1

theorem orderly_final (events : List (Lib.Event ι Worker (Choice py) Command)) :
    Orderly platform collation
      ((workers py platform collation floatEq sameNumber ι).final (idle py ι) events) :=
  Machine.Reachable.invariant (fun _ e hs => hs.step e) ⟨events, rfl⟩ orderly_idle

/-- **What has succeeded has been drafted, once.** However workers, their clocks, faults and messages
interleave, no request is executed twice at a site; a row that has succeeded holds the receipt of the
execution of its own request, and so does the row of every run that reports success. -/
theorem run_deliveries (py : Stdlib) (platform : App.Platform) (collation : Collation)
    (floatEq : List Char → ℤ → Bool) (sameNumber : List Char → List Char → Bool)
    (events : List (Lib.Event ι Worker (Choice py) Command)) :
    let s := (workers py platform collation floatEq sameNumber ι).final (idle py ι) events
    (∀ site, ((s.shared.sites site).executions.map Execution.auditName).Nodup) ∧
    (∀ key row, s.shared.store.outbox.get? key = some row → row.status = .succeeded →
      ∃ receipt, storedReceipt row = .ok receipt ∧ Drafted platform s.shared key receipt) ∧
    ∀ i result, s.runs i = some (.done (.ok result)) → result.status = .succeeded →
      ∃ key row, result.materializationId = some key.2 ∧
        s.shared.store.outbox.get? key = some row ∧ row.status = .succeeded := by
  intro s
  obtain ⟨hall, hsound⟩ : Orderly platform collation s := orderly_final events
  refine ⟨fun site => (hsound.sites site).once, fun key row hget hstatus => ?_,
    fun i result hrun hstatus => ?_⟩
  · obtain ⟨p, hp⟩ := hsound.shows key
    rw [hget] at hp
    cases hp with
    | done _ hreceipt =>
        refine ⟨_, hreceipt, hsound.drafted key _ ?_⟩
        rw [IsDone, hget]
        exact .done hstatus hreceipt
    | waiting hstatus' => simp [hstatus] at hstatus'
    | held hstatus' | dead hstatus' => rw [hstatus] at hstatus'; cases hstatus'
  · obtain ⟨key, receipt, hid, hdone⟩ := hall.ended hrun result rfl hstatus
    generalize hrow : s.shared.store.outbox.get? key = row? at hdone
    rw [IsDone, hrow] at hdone
    cases hdone with
    | done hsucceeded => exact ⟨key, _, hid, hrow, hsucceeded⟩

end Runs
end EsanGbos.AgentRuntime.Materialization
