import EsanGbos.App.DraftPages
import EsanGbos.App.Idempotency

/-!
# Commands are executed once

An audit row is locked from its insertion to the end of its transaction, and it is committed with
the effects of the one execution that it stands for. A request that begins later finds it.

## Main definitions

* `Sound` — rows, log and responses agree.
* `Follows` — what is committed stays, and is seen by every request that begins afterwards.

## Main results

* `holds_endpoint` — a request keeps this, whatever the others do.
* `run_once` — in every interleaving commands are executed at most once, replayed, and refused.
-/
namespace EsanGbos.App.Idempotency
open Lib

variable {ι : Type} [DecidableEq ι] {platform : Platform} {isolation : Isolation}

/-! ## The invariant -/

/-- An entry of the log, with the row that was committed with it. -/
structure Stored (platform : Platform) (s : Requests ι) (e : Execution ι) (result : Json) : Prop where
  mem : e ∈ s.store.log
  outcome : e.outcome = .ok result
  row : s.store.rows (e.command.slot platform) = some (e.command.completed platform result)

/-- The reply is that of an execution of another request. -/
def Replayed (platform : Platform) (s : Requests ι) (c : Command) (reply : Reply) : Prop :=
  ∃ e, Stored platform s e reply.result ∧ e.command.slot platform = c.slot platform ∧
    commandPayloadHash platform e.command = commandPayloadHash platform c ∧
    reply.requestId = e.command.requestId

/-- What a response says of the database. -/
def Answered (platform : Platform) (s : Requests ι) (i : ι) (c : Command) :
    Except BffError Reply → Prop
  | .ok reply =>
      reply.replayed = true ∧ Replayed platform s c reply ∨
        reply.replayed = false ∧ reply.requestId = c.requestId ∧
          ⟨i, c, .ok reply.result⟩ ∈ s.store.log
  | .error _ => (∀ e ∈ s.store.log, e.call ≠ i) ∧ ∃ snapshot, s.opened i = some snapshot ∧
      ∀ audit, snapshot (c.slot platform) = some audit →
        audit.payloadHash ≠ commandPayloadHash platform c

/-- Rows, log and responses agree. -/
structure Sound (platform : Platform) (s : Requests ι) : Prop where
  consistent : s.store.Consistent
  free : ∀ i k, s.store.locks k = some i → s.store.rows k = none
  rows : ∀ k audit, s.store.rows k = some audit → ∃ e result, Stored platform s e result ∧
    e.command.slot platform = k
  log : ∀ e ∈ s.store.log, ∃ result, Stored platform s e result
  once : (s.store.log.map fun e => e.command.slot platform).Nodup
  opened : ∀ i snapshot, s.opened i = some snapshot → ∀ k audit, snapshot k = some audit →
    s.store.rows k = some audit
  fresh : ∀ i, s.store.status i = .fresh → s.opened i = none
  unopened : ∀ i, s.opened i = none → (∀ e ∈ s.store.log, e.call ≠ i) ∧ s.responses i = none ∧
    ∀ c, (i, c) ∉ s.executions
  executed : ∀ i c snapshot, (i, c) ∈ s.executions → s.opened i = some snapshot →
    snapshot (c.slot platform) = none
  executing : ∀ i c tx, (i, c) ∈ s.executions → s.store.status i = .active tx →
    (tx.writes (c.slot platform)).isSome
  ended : ∀ i c response, s.responses i = some (c, response) → ∀ tx,
    s.store.status i ≠ .active tx
  answered : ∀ i c response, s.responses i = some (c, response) →
    Answered platform s i c response

/-- What is committed stays, and is seen by every request that begins afterwards. -/
structure Follows (s t : Requests ι) : Prop where
  rows : ∀ k audit, s.store.rows k = some audit → t.store.rows k = some audit
  log : ∀ e ∈ s.store.log, e ∈ t.store.log
  opened : ∀ i snapshot, s.opened i = some snapshot → t.opened i = some snapshot
  late : ∀ i snapshot, s.opened i = none → t.opened i = some snapshot →
    ∀ k audit, s.store.rows k = some audit → snapshot k = some audit

/-- What a request may rely on while others go on. -/
structure Relies (i : ι) (s t : Requests ι) : Prop where
  store : t.store.status i = .stopped ∨ Store.Leaves i s.store t.store
  follows : Follows s t
  opened : t.opened i = s.opened i
  responses : t.responses i = s.responses i
  log : ∀ e ∈ t.store.log, e.call = i → e ∈ s.store.log

omit [DecidableEq ι] in
theorem Follows.refl (s : Requests ι) : Follows s s where
  rows _ _ h := h
  log _ h := h
  opened _ _ h := h
  late i snapshot h h' := by
    rw [h] at h'
    cases h'

omit [DecidableEq ι] in
theorem Follows.trans {s t u : Requests ι} (h : Follows s t) (h' : Follows t u) : Follows s u where
  rows k audit hrow := h'.rows k audit (h.rows k audit hrow)
  log e he := h'.log e (h.log e he)
  opened i snapshot hopened := h'.opened i snapshot (h.opened i snapshot hopened)
  late i snapshot hnone hopened k audit hrow := by
    cases hmid : t.opened i with
    | none => exact h'.late i snapshot hmid hopened k audit (h.rows k audit hrow)
    | some middle =>
      rw [h'.opened i middle hmid, Option.some.injEq] at hopened
      exact hopened ▸ h.late i middle hnone hmid k audit hrow

omit [DecidableEq ι] in
theorem Relies.refl (i : ι) (s : Requests ι) : Relies i s s :=
  ⟨.inr (.refl i s.store), .refl s, rfl, rfl, fun _ h _ => h⟩

omit [DecidableEq ι] in
theorem Relies.trans {i : ι} {s t u : Requests ι} (h : Relies i s t) (h' : Relies i t u) :
    Relies i s u where
  store := by
    rcases h'.store with hstopped | hleaves'
    · exact .inl hstopped
    · rcases h.store with hstopped | hleaves
      · exact .inl (hleaves'.status.trans hstopped)
      · exact .inr (hleaves.trans hleaves')
  follows := h.follows.trans h'.follows
  opened := h'.opened.trans h.opened
  responses := h'.responses.trans h.responses
  log e he hcall := h.log e (h'.log e he hcall) hcall

/-- The contract of the requests. -/
def contract (platform : Platform) :
    Contract Call ι (Except FrappeException (List (String × Json))) (Requests ι) where
  rely := Relies
  guar i s t := Sound platform t ∧ Follows s t ∧ ∀ j, j ≠ i → Relies j s t
  allowed _ _ _ s := Sound platform s
  rely_refl := Relies.refl
  rely_trans _ _ _ _ := Relies.trans

/-- A request keeps its side of the contract, and ends with `Q`. -/
abbrev Holds (platform : Platform) (isolation : Isolation) (i : ι)
    (Q : Except FrappeException α → Requests ι → Prop) (p : Request α) (s : Requests ι) : Prop :=
  p.Holds (exec isolation) (contract platform) i Q s

/-! ## Facts that last -/

section Lasting
variable {s t : Requests ι} {i : ι} {c : Command}

omit [DecidableEq ι] in
theorem Stored.follows {e : Execution ι} {result : Json} (h : Stored platform s e result)
    (hfollows : Follows s t) : Stored platform t e result :=
  ⟨hfollows.log e h.mem, h.outcome, hfollows.rows _ _ h.row⟩

omit [DecidableEq ι] in
theorem Replayed.follows {reply : Reply} (h : Replayed platform s c reply)
    (hfollows : Follows s t) : Replayed platform t c reply := by
  obtain ⟨e, hstored, h⟩ := h
  exact ⟨e, hstored.follows hfollows, h⟩

omit [DecidableEq ι] in
/-- What a response says stays true, as long as its request commits nothing more. -/
theorem Answered.follows {response : Except BffError Reply} (h : Answered platform s i c response)
    (hfollows : Follows s t) (hlog : ∀ e ∈ t.store.log, e.call = i → e ∈ s.store.log) :
    Answered platform t i c response := by
  cases response with
  | ok reply =>
    rcases h with ⟨hreplayed, h⟩ | ⟨hreplayed, hid, hmem⟩
    · exact .inl ⟨hreplayed, h.follows hfollows⟩
    · exact .inr ⟨hreplayed, hid, hfollows.log _ hmem⟩
  | error error =>
    obtain ⟨hquiet, snapshot, hopened, hhash⟩ := h
    refine ⟨fun e he hcall => hquiet e (hlog e he hcall) hcall, snapshot, ?_, hhash⟩
    exact hfollows.opened i snapshot hopened

omit [DecidableEq ι] in
/-- States with the same rows and log. -/
theorem Sound.of_same (h : Sound platform s) (hrows : t.store.rows = s.store.rows)
    (hlog : t.store.log = s.store.log) (hopened : t.opened = s.opened)
    (hexecutions : ∀ i c, (i, c) ∈ t.executions → (i, c) ∈ s.executions ∨
      ∃ snapshot, s.opened i = some snapshot ∧ snapshot (c.slot platform) = none)
    (hresponses : ∀ i c response, t.responses i = some (c, response) →
      s.responses i = some (c, response) ∨ s.opened i ≠ none ∧ Answered platform s i c response)
    (hconsistent : t.store.Consistent)
    (hfree : ∀ i k, t.store.locks k = some i → t.store.rows k = none)
    (hfresh : ∀ i, t.store.status i = .fresh → t.opened i = none)
    (hexecuting : ∀ i c tx, (i, c) ∈ t.executions → t.store.status i = .active tx →
      (tx.writes (c.slot platform)).isSome)
    (hended : ∀ i c response, t.responses i = some (c, response) → ∀ tx,
      t.store.status i ≠ .active tx) : Sound platform t := by
  have hfollows : Follows s t := by
    refine ⟨fun k audit hk => by rw [hrows, hk], fun e he => by rwa [hlog],
      fun i snapshot hi => by rw [hopened, hi], fun i snapshot hnone hi => ?_⟩
    rw [hopened, hnone] at hi
    cases hi
  refine ⟨hconsistent, hfree, fun k audit hk => ?_, fun e he => ?_, by rw [hlog]; exact h.once,
    fun i snapshot hi k audit hk => ?_, hfresh, fun i hi => ?_, fun i c snapshot hmem hi => ?_,
    hexecuting, hended, fun i c response hi => ?_⟩
  · rw [hrows] at hk
    obtain ⟨e, result, hstored, hslot⟩ := h.rows k audit hk
    exact ⟨e, result, hstored.follows hfollows, hslot⟩
  · rw [hlog] at he
    obtain ⟨result, hstored⟩ := h.log e he
    exact ⟨result, hstored.follows hfollows⟩
  · rw [hopened] at hi
    rw [hrows]
    exact h.opened i snapshot hi k audit hk
  · rw [hopened] at hi
    obtain ⟨hquiet, hsilent, hidle⟩ := h.unopened i hi
    refine ⟨by rwa [hlog], ?_, fun c hmem => ?_⟩
    · cases hresponse : t.responses i with
      | none => rfl
      | some response =>
        rcases hresponses i response.1 response.2 hresponse with hold | ⟨hne, -⟩
        · rw [hsilent] at hold
          cases hold
        · exact absurd hi hne
    · rcases hexecutions i c hmem with hold | ⟨snapshot, hsome, -⟩
      · exact hidle c hold
      · rw [hi] at hsome
        cases hsome
  · rw [hopened] at hi
    rcases hexecutions i c hmem with hold | ⟨snapshot', hsome, hnone⟩
    · exact h.executed i c snapshot hold hi
    · rw [hi, Option.some.injEq] at hsome
      rwa [hsome]
  · have hlog : ∀ e ∈ t.store.log, e.call = i → e ∈ s.store.log := fun e he _ => by rwa [← hlog]
    rcases hresponses i c response hi with hold | ⟨-, hanswered⟩
    · exact (h.answered i c response hold).follows hfollows hlog
    · exact hanswered.follows hfollows hlog

end Lasting

/-! ## What a call changes -/

section Calls
variable {s t : Requests ι} {i : ι}

/-- A step of the database leaves the others what they rely on. -/
theorem relies_of_step (h : Sound platform s) (hstep : Store.Step i s.store t.store)
    (hfollows : Follows s t) (hopened : ∀ j, j ≠ i → t.opened j = s.opened j)
    (hresponses : ∀ j, j ≠ i → t.responses j = s.responses j)
    (hlog : ∀ e ∈ t.store.log, e.call ≠ i → e ∈ s.store.log) :
    ∀ j, j ≠ i → Relies j s t := by
  intro j hij
  refine ⟨.inr (hstep.leaves h.consistent hij), hfollows, hopened j hij, hresponses j hij, ?_⟩
  intro e he hcall
  exact hlog e he (hcall ▸ hij)

omit [DecidableEq ι] in
theorem guar_refl (h : Sound platform s) : (contract platform).guar i s s :=
  ⟨h, .refl s, fun j _ => .refl j s⟩

/-- The transaction goes on with another write, or it ends. -/
def GoesOn (i : ι) (s t : Store ι Slot Audit (Execution ι)) : Prop :=
  ∃ tx, s.status i = .active tx ∧ (t.status i = .closed ∨ ∃ k v, t.status i = .active (tx.put k v))

/-- A step that commits nothing keeps the contract. -/
theorem guar_of_step (h : Sound platform s) {store : Store ι Slot Audit (Execution ι)}
    (hstep : Store.Step i s.store store) (hrows : store.rows = s.store.rows)
    (hlog : store.log = s.store.log) (hgoes : GoesOn i s.store store)
    (hfree : ∀ j k, store.locks k = some j → s.store.rows k = none) :
    (contract platform).guar i s { s with store := store } := by
  obtain ⟨tx, hactive, hnext⟩ := hgoes
  have hother := fun j hij => (hstep.leaves h.consistent (j := j) hij).status
  have hfollows : Follows s { s with store := store } := by
    refine ⟨fun k audit hk => by rw [hrows, hk], fun e he => by rwa [hlog], fun _ _ hi => hi,
      fun j snapshot hnone hj => ?_⟩
    rw [hnone] at hj
    cases hj
  have hsound : Sound platform { s with store := store } := by
    refine h.of_same hrows hlog rfl (fun _ _ h => .inl h) (fun _ _ _ h => .inl h) (hstep.consistent h.consistent)
      (fun j k hk => by rw [hrows]; exact hfree j k hk) (fun j hj => ?_)
      (fun j c tx' hmem hj => ?_) (fun j c response hj tx' hactive' => ?_)
    · by_cases hij : j = i
      · subst hij
        rcases hnext with hclosed | ⟨k, v, hput⟩
        · rw [hclosed] at hj
          cases hj
        · rw [hput] at hj
          cases hj
      · rw [hother j hij] at hj
        exact h.fresh j hj
    · by_cases hij : j = i
      · subst hij
        rcases hnext with hclosed | ⟨k, v, hput⟩
        · rw [hclosed] at hj
          cases hj
        · rw [hput, Status.active.injEq] at hj
          subst hj
          have hsome := h.executing j c tx hmem hactive
          by_cases hk : c.slot platform = k
          · simp [Tx.put, hk]
          · simpa [Tx.put, hk] using hsome
      · rw [hother j hij] at hj
        exact h.executing j c tx' hmem hj
    · by_cases hij : j = i
      · subst hij
        exact h.ended j c response hj tx hactive
      · rw [hother j hij] at hactive'
        exact h.ended j c response hj tx' hactive'
  refine ⟨hsound, hfollows, relies_of_step h hstep hfollows (fun _ _ => rfl) (fun _ _ => rfl) ?_⟩
  intro e he _
  rwa [← hlog]

end Calls

/-! ## A request between its calls -/

section Going
variable {s t : Requests ι} {i : ι} {tx : Tx Slot Audit (Execution ι)} {c : Command} {α β : Type}

/-- The transaction of a request goes on, and nothing of it is committed. -/
structure Going (i : ι) (s : Requests ι) (tx : Tx Slot Audit (Execution ι)) : Prop where
  active : s.store.status i = .active tx
  opened : s.opened i = some tx.snapshot
  quiet : ∀ e ∈ s.store.log, e.call ≠ i

/-- The request has stopped, or it goes on as `P` says. -/
def Reaches (i : ι) (P : Tx Slot Audit (Execution ι) → Requests ι → Prop) (s : Requests ι) : Prop :=
  s.store.status i = .stopped ∨ ∃ tx, Going i s tx ∧ P tx s

omit [DecidableEq ι] in
theorem Going.relies (h : Going i s tx) (ht : Relies i s t) :
    t.store.status i = .stopped ∨ Going i t tx := by
  rcases ht.store with hstopped | hleaves
  · exact .inl hstopped
  · refine .inr ⟨hleaves.status.trans h.active, ht.opened.trans h.opened, fun e he hcall => ?_⟩
    exact h.quiet e (ht.log e he hcall) hcall

/-- Nothing comes of the calls of a request that has stopped. -/
theorem exec_stopped (isolation : Isolation) (h : s.store.status i = .stopped)
    (outcome : Except FrappeException (List (String × Json))) (call : Call) :
    ∃ e, exec isolation i outcome call s = (.error e, s) := by
  cases call with
  | begin => exact ⟨.other, by simp only [exec, Store.begin, h]; rfl⟩
  | load slot => exact ⟨.other, by simp only [exec, Store.read, h]; rfl⟩
  | insert slot audit => exact ⟨.other, by simp only [exec, Store.insert, h]; rfl⟩
  | execute c => exact ⟨.other, by simp only [exec, Store.record, h]; rfl⟩
  | save slot audit => exact ⟨.other, by simp only [exec, Store.write, h]; rfl⟩
  | commit => exact ⟨.other, by simp only [exec, Store.commit, h]; rfl⟩
  | rollback => exact ⟨.other, by simp only [exec, Store.rollback, h]; rfl⟩
  | respond c response => exact ⟨.other, by simp only [exec, h]⟩

theorem holds_of_stopped {Q : Except FrappeException α → Requests ι → Prop} {p : Request α}
    (hQ : ∀ r t, t.store.status i = .stopped → Q r t) (h : s.store.status i = .stopped) :
    Holds platform isolation i Q p s := by
  induction p generalizing s with
  | done r => exact hQ r s h
  | call call next ih =>
    intro t ht outcome hsound
    have hstopped : t.store.status i = .stopped := by
      rcases ht.store with hstopped | hleaves
      · exact hstopped
      · exact hleaves.status.trans h
    obtain ⟨e, he⟩ := exec_stopped isolation hstopped outcome call
    rw [he]
    exact ⟨guar_refl hsound, ih _ hstopped⟩

/-- A call of a request that goes on. -/
theorem holds_invoke {call : Call} {P : Except FrappeException (Call.Answer call) →
    Tx Slot Audit (Execution ι) → Requests ι → Prop} (h : Going i s tx)
    (hcall : ∀ t outcome, Relies i s t → Sound platform t → Going i t tx →
      (contract platform).guar i t (exec isolation i outcome call t).2 ∧
        Reaches i (P (exec isolation i outcome call t).1) (exec isolation i outcome call t).2) :
    Holds platform isolation i (fun r => Reaches i (P r)) (Prog.invoke call) s := by
  apply Prog.Holds.invoke
  intro t ht outcome hsound
  rcases h.relies ht with hstopped | hgoing
  · obtain ⟨e, he⟩ := exec_stopped isolation hstopped outcome call
    rw [he]
    exact ⟨guar_refl hsound, .inl hstopped⟩
  · exact hcall t outcome ht hsound hgoing

/-- What comes after a part of a request. -/
theorem holds_bind {P : Except FrappeException α → Tx Slot Audit (Execution ι) → Requests ι → Prop}
    {Q : Except FrappeException β → Tx Slot Audit (Execution ι) → Requests ι → Prop}
    {p : Request α} {f : α → Request β}
    (h : Holds platform isolation i (fun r => Reaches i (P r)) p s)
    (hok : ∀ a t tx, Going i t tx → P (.ok a) tx t →
      Holds platform isolation i (fun r => Reaches i (Q r)) (f a) t)
    (herror : ∀ e tx t, P (.error e) tx t → Q (.error e) tx t) :
    Holds platform isolation i (fun r => Reaches i (Q r)) (p >>= f) s := by
  refine h.bind ?_ ?_
  · rintro a t (hstopped | ⟨tx, hgoing, hP⟩)
    · exact holds_of_stopped (fun _ _ hstopped => .inl hstopped) hstopped
    · exact hok a t tx hgoing hP
  · rintro e t (hstopped | ⟨tx, hgoing, hP⟩)
    · exact .inl hstopped
    · exact .inr ⟨tx, hgoing, herror e tx t hP⟩

end Going

/-! ## `run_idempotent` -/

section Run
variable {s t : Requests ι} {i : ι} {tx : Tx Slot Audit (Execution ι)} {c : Command}

/-- The transaction has written and logged nothing. -/
def Unwritten (tx : Tx Slot Audit (Execution ι)) : Prop :=
  (∀ k, tx.writes k = none) ∧ tx.logged = []

/-- It has written one row, of a name that was free when it began. -/
structure Wrote (slot : Slot) (audit : Audit) (tx : Tx Slot Audit (Execution ι)) : Prop where
  writes : ∀ k, tx.writes k = if k = slot then some audit else none
  unseen : tx.snapshot slot = none

/-- How `run_idempotent` leaves the transaction. -/
def Finishes (platform : Platform) (i : ι) (c : Command) (r : Except FrappeException Reply)
    (tx : Tx Slot Audit (Execution ι)) (s : Requests ι) : Prop :=
  match r with
  | .ok reply =>
      reply.replayed = true ∧ Unwritten tx ∧ Replayed platform s c reply ∨
        reply.replayed = false ∧ reply.requestId = c.requestId ∧
          Wrote (c.slot platform) (c.completed platform reply.result) tx ∧
          tx.logged = [⟨i, c, .ok reply.result⟩]
  | .error _ => ∀ audit, tx.snapshot (c.slot platform) = some audit →
      audit.payloadHash ≠ commandPayloadHash platform c

omit [DecidableEq ι] in
/-- A transaction that has written nothing reads rows that are committed, and all that were
committed when it began. -/
theorem read_eq (isolation : Isolation) (hsound : Sound platform s) (h : Going i s tx) (hunwritten : Unwritten tx)
    (slot : Slot) : ∃ found, s.store.read i isolation slot = .ok found ∧
      (∀ audit, found = some audit → s.store.rows slot = some audit) ∧
      ∀ audit, tx.snapshot slot = some audit → found = some audit := by
  have hsub := hsound.opened i tx.snapshot h.opened slot
  simp only [Store.read, h.active, hunwritten.1 slot, Option.none_or]
  cases isolation with
  | repeatableRead => exact ⟨_, rfl, hsub, fun _ h => h⟩
  | readCommitted => exact ⟨_, rfl, fun _ h => h, hsub⟩

theorem holds_load (h : Going i s tx) (hunwritten : Unwritten tx) (slot : Slot) :
    Holds platform isolation i (fun r => Reaches i fun tx' t => tx' = tx ∧
      ∃ found, r = .ok found ∧ (∀ audit, found = some audit → t.store.rows slot = some audit) ∧
        Sound platform t ∧ ∀ audit, tx.snapshot slot = some audit → found = some audit)
      (load slot) s := by
  refine holds_invoke h fun t outcome _ hsound hgoing => ?_
  obtain ⟨found, hread, hrows, hsnapshot⟩ := read_eq isolation hsound hgoing
    hunwritten slot
  have hexec : exec isolation i outcome (.load slot) t = (.ok found, t) := by
    simp only [exec, hread]
    rfl
  rw [hexec]
  exact ⟨guar_refl hsound, .inr ⟨tx, hgoing, rfl, found, rfl, hrows, hsound, hsnapshot⟩⟩

/-- The row of the slot is written, where it is free. -/
theorem guar_put (hsound : Sound platform s) (h : Going i s tx) {slot : Slot} (audit : Audit)
    (hfree : s.store.IsFree i slot) (hrow : s.store.rows slot = none) :
    (contract platform).guar i s
      { s with store := (s.store.holdLock i slot).setTx i (tx.put slot audit) } := by
  refine guar_of_step hsound (.put s.store slot audit h.active hfree) rfl rfl
    ⟨tx, h.active, .inr ⟨slot, audit, Store.status_setTx_self⟩⟩ fun j k hlock => ?_
  by_cases hk : k = slot
  · rw [hk, hrow]
  · rw [Store.locks_setTx, Store.locks_holdLock_of_ne hk] at hlock
    exact hsound.free j k hlock

omit [DecidableEq ι] in
theorem Going.put (h : Going i s tx) (slot : Slot) (audit : Audit) [DecidableEq ι] :
    Going i { s with store := (s.store.holdLock i slot).setTx i (tx.put slot audit) }
      (tx.put slot audit) :=
  ⟨Store.status_setTx_self, h.opened, h.quiet⟩

/-- An insertion is refused, or the name was free. -/
theorem holds_insert (h : Going i s tx) (hunwritten : Unwritten tx) {slot : Slot}
    (hunseen : tx.snapshot slot = none) (audit : Audit) :
    Holds platform isolation i (fun r => Reaches i fun tx _ => tx.snapshot slot = none ∧
      ((∃ e, r = .error e ∧ Unwritten tx) ∨ r = .ok () ∧ Wrote slot audit tx ∧ tx.logged = []))
      (insert slot audit) s := by
  refine holds_invoke h fun t outcome _ hsound hgoing => ?_
  have hrefused : ∀ e, t.store.insert i slot audit = (.error e, t.store) →
      (contract platform).guar i t (exec isolation i outcome (.insert slot audit) t).2 ∧
        Reaches i (fun tx _ => tx.snapshot slot = none ∧
          ((∃ e, (exec isolation i outcome (.insert slot audit) t).1 = .error e ∧ Unwritten tx) ∨
            (exec isolation i outcome (.insert slot audit) t).1 = .ok () ∧ Wrote slot audit tx ∧
              tx.logged = [])) (exec isolation i outcome (.insert slot audit) t).2 := by
    intro e he
    have hexec : exec isolation i outcome (.insert slot audit) t = (.error (.ofRefusal e), t) := by
      simp only [exec, he, Requests.after]
      rfl
    rw [hexec]
    exact ⟨guar_refl hsound, .inr ⟨tx, hgoing, hunseen, .inl ⟨_, rfl, hunwritten⟩⟩⟩
  by_cases hfree : t.store.IsFree i slot
  · by_cases hrow : t.store.rows slot = none
    · have hinsert : t.store.insert i slot audit =
          (.ok (), (t.store.holdLock i slot).setTx i (tx.put slot audit)) := by
        simp only [Store.insert, hgoing.active, hfree, hunwritten.1 slot, hrow]
        rfl
      have hexec : exec isolation i outcome (.insert slot audit) t = (.ok (), { t with
          store := (t.store.holdLock i slot).setTx i (tx.put slot audit) }) := by
        simp only [exec, hinsert, Requests.after]
        rfl
      rw [hexec]
      refine ⟨guar_put hsound hgoing audit hfree hrow, .inr ⟨_, hgoing.put slot audit, hunseen,
        .inr ⟨rfl, ⟨fun k => ?_, hunseen⟩, hunwritten.2⟩⟩⟩
      by_cases hk : k = slot
      · simp [Tx.put, hk]
      · simp [Tx.put, hk, hunwritten.1 k]
    · refine hrefused .duplicate ?_
      have hsome : ((tx.writes slot).or (t.store.rows slot)).isSome := by
        rw [hunwritten.1 slot, Option.none_or, Option.isSome_iff_ne_none]
        exact hrow
      simp only [Store.insert, hgoing.active, hfree, hsome, if_true]
  · refine hrefused .locked ?_
    simp only [Store.insert, hgoing.active, hfree, if_false]

theorem holds_save {slot : Slot} {audit : Audit} (h : Going i s tx) (hwrote : Wrote slot audit tx)
    (audit' : Audit) : Holds platform isolation i (fun r => Reaches i fun tx' _ =>
      r = .ok () ∧ Wrote slot audit' tx' ∧ tx'.logged = tx.logged) (save slot audit') s := by
  refine holds_invoke h fun t outcome _ hsound hgoing => ?_
  have hsome : (tx.writes slot).isSome := by simp [hwrote.writes]
  have hlock := hsound.consistent.locked i tx slot hgoing.active hsome
  have hwrite : t.store.write i slot audit' =
      (.ok (), (t.store.holdLock i slot).setTx i (tx.put slot audit')) := by
    simp only [Store.write, hgoing.active]
    exact if_pos (.inr hlock)
  have hexec : exec isolation i outcome (.save slot audit') t = (.ok (), { t with
      store := (t.store.holdLock i slot).setTx i (tx.put slot audit') }) := by
    simp only [exec, hwrite, Requests.after]
    rfl
  rw [hexec]
  refine ⟨guar_put hsound hgoing audit' (.inr hlock) (hsound.free i slot hlock),
    .inr ⟨_, hgoing.put slot audit', rfl, ⟨fun k => ?_, hwrote.unseen⟩, rfl⟩⟩
  by_cases hk : k = slot
  · simp [Tx.put, hk]
  · simp [Tx.put, hk, hwrote.writes k]

/-- The execution is logged, and rolled back or committed with the transaction. -/
theorem holds_execute (h : Going i s tx) {audit : Audit} (hlogged : tx.logged = [])
    (hwrote : Wrote (c.slot platform) audit tx) :
    Holds platform isolation i (fun r => Reaches i fun tx' _ => Wrote (c.slot platform) audit tx' ∧
      tx'.logged = [⟨i, c, r⟩]) (execute c) s := by
  refine holds_invoke h fun t outcome _ hsound hgoing => ?_
  obtain ⟨result, hresult⟩ : ∃ result, result = outcome.map Json.obj := ⟨_, rfl⟩
  have hrecord : t.store.record i ⟨i, c, result⟩ =
      (.ok (), t.store.setTx i (tx.append ⟨i, c, result⟩)) := by
    simp only [Store.record, hgoing.active]
  have hexec : exec isolation i outcome (.execute c) t = (result, { t with
      store := t.store.setTx i (tx.append ⟨i, c, result⟩)
      executions := t.executions ++ [(i, c)] }) := by
    simp only [exec, ← hresult, hrecord]
  have hstep : Store.Step i t.store (t.store.setTx i (tx.append ⟨i, c, result⟩)) :=
    .record t.store _ hgoing.active
  have hother := fun j hij => (hstep.leaves hsound.consistent (j := j) hij).status
  have hsound' : Sound platform { t with
      store := t.store.setTx i (tx.append ⟨i, c, result⟩)
      executions := t.executions ++ [(i, c)] } := by
    refine hsound.of_same rfl rfl rfl (fun j c' hmem => ?_) (fun _ _ _ h => .inl h)
      (hstep.consistent hsound.consistent) (fun j k hk => hsound.free j k hk) (fun j hj => ?_)
      (fun j c' tx' hmem hj => ?_) (fun j c' response hj tx' hactive => ?_)
    · rcases List.mem_append.mp hmem with hold | hnew
      · exact .inl hold
      · obtain ⟨rfl, rfl⟩ := Prod.mk.inj (List.mem_singleton.mp hnew)
        exact .inr ⟨tx.snapshot, hgoing.opened, hwrote.unseen⟩
    · by_cases hij : j = i
      · subst hij
        rw [Store.status_setTx_self] at hj
        cases hj
      · rw [hother j hij] at hj
        exact hsound.fresh j hj
    · by_cases hij : j = i
      · subst hij
        rw [Store.status_setTx_self, Status.active.injEq] at hj
        subst hj
        rcases List.mem_append.mp hmem with hold | hnew
        · exact hsound.executing j c' tx hold hgoing.active
        · obtain ⟨-, rfl⟩ := Prod.mk.inj (List.mem_singleton.mp hnew)
          simp [Tx.append, hwrote.writes]
      · rw [hother j hij] at hj
        have hold : (j, c') ∈ t.executions := by simpa [hij] using hmem
        exact hsound.executing j c' tx' hold hj
    · by_cases hij : j = i
      · subst hij
        exact hsound.ended j c' response hj tx hgoing.active
      · rw [hother j hij] at hactive
        exact hsound.ended j c' response hj tx' hactive
  have hfollows : Follows t { t with
      store := t.store.setTx i (tx.append ⟨i, c, result⟩)
      executions := t.executions ++ [(i, c)] } :=
    ⟨fun _ _ h => h, fun _ h => h, fun _ _ h => h, (Follows.refl t).late⟩
  rw [hexec]
  refine ⟨⟨hsound', hfollows, relies_of_step hsound hstep hfollows (fun _ _ => rfl)
    (fun _ _ => rfl) fun e he _ => he⟩, .inr ⟨tx.append ⟨i, c, result⟩,
    ⟨Store.status_setTx_self, hgoing.opened, hgoing.quiet⟩, ⟨hwrote.writes, hwrote.unseen⟩, ?_⟩⟩
  simp only [Tx.append, hlogged, List.nil_append]

omit [DecidableEq ι] in
/-- A row that is found was committed with the execution that it stands for. -/
theorem replay_finishes (hsound : Sound platform s) (hunwritten : Unwritten tx) {found : Audit}
    (hrow : s.store.rows (c.slot platform) = some found)
    (hsnapshot : ∀ audit, tx.snapshot (c.slot platform) = some audit → found = audit) :
    Finishes platform i c (replay platform c found) tx s := by
  obtain ⟨e, result, hstored, hslot⟩ := hsound.rows _ _ hrow
  have hfound : found = e.command.completed platform result := by
    have hrow' := hstored.row
    rw [hslot, hrow, Option.some.injEq] at hrow'
    exact hrow'
  by_cases hhash : found.payloadHash = commandPayloadHash platform c
  · have hreplay : replay platform c found = .ok ⟨result, true, e.command.requestId⟩ := by
      rw [replay, if_neg (not_not_intro hhash), hfound]
      rfl
    rw [hreplay]
    exact .inl ⟨rfl, hunwritten, e, hstored, hslot, by rw [← hhash, hfound]; rfl, rfl⟩
  · rw [replay, if_pos hhash]
    intro audit hseen
    rw [← hsnapshot audit hseen]
    exact hhash

omit [DecidableEq ι] in
/-- So was a row that came first. -/
theorem replayDuplicate_finishes (hsound : Sound platform s) (hunwritten : Unwritten tx)
    (hunseen : tx.snapshot (c.slot platform) = none) {found : Option Audit}
    (hrow : ∀ audit, found = some audit → s.store.rows (c.slot platform) = some audit) :
    Finishes platform i c (replayDuplicate platform c found) tx s := by
  have hrefused : ∀ e, Finishes platform i c (.error e) tx s := by
    intro e audit hseen
    rw [hunseen] at hseen
    cases hseen
  unfold replayDuplicate
  split
  next existing =>
    split
    next output houtput =>
      split
      next haccepted =>
        obtain ⟨e, result, hstored, hslot⟩ := hsound.rows _ _ (hrow existing rfl)
        have hfound : existing = e.command.completed platform result := by
          have hrow' := hstored.row
          rw [hslot, hrow existing rfl, Option.some.injEq] at hrow'
          exact hrow'
        have hresult : output = result := by
          rw [hfound] at houtput
          exact (Option.some.inj houtput).symm
        subst hresult
        refine .inl ⟨rfl, hunwritten, e, hstored, hslot, ?_, by rw [hfound]; rfl⟩
        rw [← haccepted.1, hfound]
        rfl
      next => exact hrefused _
    next => exact hrefused _
  next => exact hrefused _

/-- A command without a row. -/
theorem holds_insertAndExecute (h : Going i s tx) (hunwritten : Unwritten tx)
    (hunseen : tx.snapshot (c.slot platform) = none) :
    Holds platform isolation i (fun r => Reaches i (Finishes platform i c r))
      (insertAndExecute platform c) s := by
  have hrefused : ∀ e, ∀ tx : Tx Slot Audit (Execution ι), ∀ t : Requests ι,
      tx.snapshot (c.slot platform) = none → Finishes platform i c (.error e) tx t := by
    intro e tx t hunseen audit hseen
    rw [hunseen] at hseen
    cases hseen
  unfold insertAndExecute
  refine holds_bind (P := fun r tx _ => tx.snapshot (c.slot platform) = none ∧ ∃ r', r = .ok r' ∧
    ((∃ e, r' = .error e ∧ Unwritten tx) ∨
      r' = .ok () ∧ Wrote (c.slot platform) (c.authorized platform) tx ∧ tx.logged = [])) ?_ ?_ ?_
  · refine (holds_insert h hunwritten hunseen _).attempt ?_
    rintro r t (hstopped | ⟨tx, hgoing, hunseen, hr⟩)
    · exact .inl hstopped
    · exact .inr ⟨tx, hgoing, hunseen, r, rfl, hr⟩
  · rintro inserted t tx hgoing ⟨hunseen, r, hinserted, hr⟩
    injection hinserted with hinserted
    subst hinserted
    rcases hr with ⟨e, rfl, hunwritten⟩ | ⟨rfl, hwrote, hlogged⟩
    · have hdone : Holds platform isolation i (fun r => Reaches i (Finishes platform i c r))
          (.done (.error e)) t := .inr ⟨tx, hgoing, hrefused e tx t hunseen⟩
      cases e with
      | duplicateEntry =>
        refine holds_bind (holds_load hgoing hunwritten _) ?_ ?_
        · rintro found u _ hloaded ⟨rfl, _, hfound, hrow, hsound, -⟩
          cases hfound
          exact .inr ⟨_, hloaded, replayDuplicate_finishes hsound hunwritten hunseen hrow⟩
        · rintro e tx u ⟨-, found, hfound, -⟩
          cases hfound
      | bff | permission | doesNotExist | validation | other => exact hdone
    · refine holds_bind (holds_execute hgoing hlogged hwrote) ?_ ?_
      · rintro result u tx hgoing ⟨hwrote, hlogged⟩
        refine holds_bind (holds_save hgoing hwrote _) ?_ ?_
        · rintro - v tx' hgoing ⟨-, hwrote, hsame⟩
          exact .inr ⟨tx', hgoing, .inr ⟨rfl, rfl, hwrote, hsame.trans hlogged⟩⟩
        · rintro e tx' v ⟨hok, -⟩
          cases hok
      · rintro e tx u ⟨hwrote, -⟩
        exact hrefused e tx u hwrote.unseen
  · rintro e tx t ⟨-, r, hr, -⟩
    cases hr

theorem holds_runIdempotent (h : Going i s tx) (hunwritten : Unwritten tx) :
    Holds platform isolation i (fun r => Reaches i (Finishes platform i c r))
      (runIdempotent platform c) s := by
  unfold runIdempotent
  refine holds_bind (holds_load h hunwritten _) ?_ ?_
  · rintro found t _ hgoing ⟨rfl, _, hfound, hrow, hsound, hsnapshot⟩
    cases hfound
    cases found with
    | some existing =>
      refine .inr ⟨_, hgoing, replay_finishes hsound hunwritten (hrow existing rfl) ?_⟩
      exact fun audit hseen => Option.some.inj (hsnapshot audit hseen)
    | none =>
      have hunseen := Option.eq_none_iff_forall_ne_some.mpr fun audit hseen =>
        Option.some_ne_none audit (hsnapshot audit hseen).symm
      exact holds_insertAndExecute hgoing hunwritten hunseen
  · rintro e tx t ⟨-, found, hfound, -⟩
    cases hfound

end Run

/-! ## The request -/

section Endpoint
variable {s t : Requests ι} {i : ι} {tx : Tx Slot Audit (Execution ι)} {c : Command}

/-- The shared state after a commit. -/
def committed (i : ι) (tx : Tx Slot Audit (Execution ι)) (s : Requests ι) : Requests ι :=
  { s with store := { s.store.finish i .closed with
      rows := fun k => (tx.writes k).or (s.store.rows k)
      log := s.store.log ++ tx.logged } }

theorem exec_commit (h : Going i s tx)
    (outcome : Except FrappeException (List (String × Json))) :
    exec isolation i outcome .commit s = (.ok (), committed i tx s) := by
  simp only [exec, Store.commit, h.active, Requests.after]
  rfl

/-- A replay commits nothing. -/
theorem guar_commit_unwritten (hsound : Sound platform s) (h : Going i s tx)
    (hunwritten : Unwritten tx) : (contract platform).guar i s (committed i tx s) := by
  refine guar_of_step hsound (.commit s.store h.active) (funext fun k => ?_) ?_
    ⟨tx, h.active, .inl Store.status_finish_self⟩ fun j k hlock => ?_
  · show (tx.writes k).or (s.store.rows k) = s.store.rows k
    rw [hunwritten.1 k, Option.none_or]
  · show s.store.log ++ tx.logged = s.store.log
    rw [hunwritten.2, List.append_nil]
  · have hlock : (s.store.finish i .closed).locks k = some j := hlock
    exact hsound.free j k (Store.locks_finish.mp hlock).1

/-- The row and the execution are committed together, under a name that was free. -/
theorem guar_commit_wrote (hsound : Sound platform s) (h : Going i s tx) {result : Json}
    (hwrote : Wrote (c.slot platform) (c.completed platform result) tx)
    (hlogged : tx.logged = [⟨i, c, .ok result⟩]) :
    (contract platform).guar i s (committed i tx s) := by
  have hstep : Store.Step i s.store (committed i tx s).store := .commit s.store h.active
  have hother := fun j hij => (hstep.leaves hsound.consistent (j := j) hij).status
  have hlock : s.store.locks (c.slot platform) = some i :=
    hsound.consistent.locked i tx _ h.active (by simp [hwrote.writes])
  have hfree := hsound.free i _ hlock
  have hlog : (committed i tx s).store.log = s.store.log ++ [⟨i, c, .ok result⟩] := by
    rw [committed, hlogged]
  have hrow : (committed i tx s).store.rows (c.slot platform) =
      some (c.completed platform result) := by
    simp [committed, hwrote.writes]
  have hrows : ∀ k, k ≠ c.slot platform → (committed i tx s).store.rows k = s.store.rows k := by
    intro k hk
    simp [committed, hwrote.writes, hk]
  have hfollows : Follows s (committed i tx s) := by
    refine ⟨fun k audit hk => ?_, fun e he => by rw [hlog]; exact List.mem_append_left _ he,
      fun _ _ hi => hi, (Follows.refl s).late⟩
    have hne : k ≠ c.slot platform := by
      rintro rfl
      rw [hfree] at hk
      cases hk
    rw [hrows k hne, hk]
  have hstored : Stored platform (committed i tx s) ⟨i, c, .ok result⟩ result :=
    ⟨by rw [hlog]; exact List.mem_append_right _ (List.mem_singleton_self _), rfl, hrow⟩
  have hnew : ∀ e ∈ (committed i tx s).store.log, e.call ≠ i → e ∈ s.store.log := by
    intro e he hne
    rw [hlog] at he
    rcases List.mem_append.mp he with hold | hnew
    · exact hold
    · rw [List.mem_singleton.mp hnew] at hne
      exact absurd rfl hne
  refine ⟨⟨hstep.consistent hsound.consistent, fun j k hk => ?_, fun k audit hk => ?_,
    fun e he => ?_, ?_, fun j snapshot hj k audit hk => ?_, fun j hj => ?_, fun j hj => ?_,
    hsound.executed, fun j c' tx' hmem hj => ?_, fun j c' response hj tx' hactive => ?_,
    fun j c' response hj => ?_⟩, hfollows,
    relies_of_step hsound hstep hfollows (fun _ _ => rfl) (fun _ _ => rfl) hnew⟩
  · have hk : (s.store.finish i .closed).locks k = some j := hk
    obtain ⟨hk, hij⟩ := Store.locks_finish.mp hk
    have hne : k ≠ c.slot platform := by
      rintro rfl
      rw [hlock, Option.some.injEq] at hk
      exact hij hk.symm
    rw [hrows k hne]
    exact hsound.free j k hk
  · by_cases heq : k = c.slot platform
    · exact ⟨_, result, hstored, heq.symm⟩
    · rw [hrows k heq] at hk
      obtain ⟨e, result', hold, hslot⟩ := hsound.rows k audit hk
      exact ⟨e, result', hold.follows hfollows, hslot⟩
  · rw [hlog] at he
    rcases List.mem_append.mp he with hold | hnew
    · obtain ⟨result', hold⟩ := hsound.log e hold
      exact ⟨result', hold.follows hfollows⟩
    · exact ⟨result, List.mem_singleton.mp hnew ▸ hstored⟩
  · rw [hlog, List.map_append]
    refine hsound.once.append (List.nodup_singleton _) fun slot hold hnew => ?_
    obtain ⟨e, he, heq⟩ := List.mem_map.mp hold
    obtain ⟨result', hold⟩ := hsound.log e he
    rw [List.map_singleton, List.mem_singleton] at hnew
    have hrow' := hold.row
    rw [heq, hnew, hfree] at hrow'
    cases hrow'
  · exact hfollows.rows k audit (hsound.opened j snapshot hj k audit hk)
  · by_cases hij : j = i
    · subst hij
      rw [committed, Store.status_finish_self] at hj
      cases hj
    · rw [hother j hij] at hj
      exact hsound.fresh j hj
  · obtain ⟨hquiet, hsilent, hidle⟩ := hsound.unopened j hj
    have hij : j ≠ i := by
      rintro rfl
      have hopened := h.opened
      rw [show s.opened j = none from hj] at hopened
      cases hopened
    refine ⟨fun e he hcall => ?_, hsilent, hidle⟩
    exact hquiet e (hnew e he (hcall ▸ hij)) hcall
  · by_cases hij : j = i
    · subst hij
      rw [committed, Store.status_finish_self] at hj
      cases hj
    · rw [hother j hij] at hj
      exact hsound.executing j c' tx' hmem hj
  · by_cases hij : j = i
    · subst hij
      exact hsound.ended j c' response hj tx h.active
    · rw [hother j hij] at hactive
      exact hsound.ended j c' response hj tx' hactive
  · have hij : j ≠ i := by
      rintro rfl
      exact hsound.ended j c' response hj tx h.active
    refine (hsound.answered j c' response hj).follows hfollows fun e he hcall => ?_
    exact hnew e he (hcall ▸ hij)

/-- The transaction has ended, and the response is true. -/
def Finished (platform : Platform) (i : ι) (c : Command) (response : Except BffError Reply)
    (s : Requests ι) : Prop :=
  s.store.status i = .stopped ∨
    s.store.status i = .closed ∧ s.opened i ≠ none ∧ Answered platform s i c response

theorem holds_commit {reply : Reply} (h : Going i s tx)
    (hfinishes : Finishes platform i c (.ok reply) tx s) :
    Holds platform isolation i (fun _ => Finished platform i c (.ok reply))
      (Prog.invoke Call.commit) s := by
  apply Prog.Holds.invoke
  intro t ht outcome hsound
  rcases h.relies ht with hstopped | hgoing
  · obtain ⟨e, he⟩ := exec_stopped isolation hstopped outcome .commit
    rw [he]
    exact ⟨guar_refl hsound, .inl hstopped⟩
  · rw [exec_commit hgoing]
    have hopened : t.opened i ≠ none := by
      rw [hgoing.opened]
      exact Option.some_ne_none _
    rcases hfinishes with ⟨hreplayed, hunwritten, hreply⟩ | ⟨hreplayed, hid, hwrote, hlogged⟩
    · have hguar := guar_commit_unwritten hsound hgoing hunwritten
      exact ⟨hguar, .inr ⟨Store.status_finish_self, hopened, .inl ⟨hreplayed,
        hreply.follows (ht.follows.trans hguar.2.1)⟩⟩⟩
    · have hguar := guar_commit_wrote hsound hgoing hwrote hlogged
      refine ⟨hguar, .inr ⟨Store.status_finish_self, hopened, .inr ⟨hreplayed, hid, ?_⟩⟩⟩
      rw [committed, hlogged]
      exact List.mem_append_right _ (List.mem_singleton_self _)

theorem holds_rollback {e : FrappeException} (h : Going i s tx)
    (hfinishes : Finishes platform i c (.error e) tx s) :
    Holds platform isolation i (fun _ => Finished platform i c (.error e.failure))
      (Prog.invoke Call.rollback) s := by
  apply Prog.Holds.invoke
  intro t ht outcome hsound
  rcases h.relies ht with hstopped | hgoing
  · obtain ⟨e, he⟩ := exec_stopped isolation hstopped outcome .rollback
    rw [he]
    exact ⟨guar_refl hsound, .inl hstopped⟩
  · have hexec : exec isolation i outcome .rollback t =
        (.ok (), { t with store := t.store.finish i .closed }) := by
      simp only [exec, Store.rollback, hgoing.active, Requests.after]
      rfl
    have hopened : t.opened i ≠ none := by
      rw [hgoing.opened]
      exact Option.some_ne_none _
    have hguar := guar_of_step hsound (.rollback t.store hgoing.active) rfl rfl
      ⟨tx, hgoing.active, .inl Store.status_finish_self⟩ fun j k hlock =>
        hsound.free j k (Store.locks_finish.mp hlock).1
    rw [hexec]
    exact ⟨hguar, .inr ⟨Store.status_finish_self, hopened, hgoing.quiet, tx.snapshot,
      hgoing.opened, hfinishes⟩⟩

theorem holds_respond {response : Except BffError Reply} (h : Finished platform i c response s) :
    Holds platform isolation i (fun _ _ => True) (Prog.invoke (Call.respond c response)) s := by
  apply Prog.Holds.invoke
  intro t ht outcome hsound
  have hstopped : t.store.status i = .stopped → _ := fun hstopped =>
    exec_stopped isolation hstopped outcome (.respond c response)
  rcases h with hs | ⟨hclosed, hopened, hanswered⟩
  · have ht' : t.store.status i = .stopped := by
      rcases ht.store with ht' | hleaves
      · exact ht'
      · exact hleaves.status.trans hs
    obtain ⟨e, he⟩ := hstopped ht'
    rw [he]
    exact ⟨guar_refl hsound, trivial⟩
  · rcases ht.store with ht' | hleaves
    · obtain ⟨e, he⟩ := hstopped ht'
      rw [he]
      exact ⟨guar_refl hsound, trivial⟩
    · have hclosed : t.store.status i = .closed := hleaves.status.trans hclosed
      have hexec : exec isolation i outcome (.respond c response) t = (.ok (), { t with
          responses := Function.update t.responses i (some (c, response)) }) := by
        simp only [exec, hclosed]
      have hanswered : Answered platform t i c response :=
        hanswered.follows ht.follows ht.log
      rw [hexec]
      refine ⟨⟨?_, ?_, ?_⟩, trivial⟩
      · refine hsound.of_same rfl rfl rfl (fun _ _ h => .inl h) (fun j c' response' hj => ?_)
          hsound.consistent hsound.free hsound.fresh hsound.executing
          (fun j c' response' hj tx hactive => ?_)
        · by_cases hij : j = i
          · subst hij
            obtain ⟨rfl, rfl⟩ : c = c' ∧ response = response' := by simpa using hj
            exact .inr ⟨by rwa [ht.opened], hanswered⟩
          · exact .inl (by simpa [hij] using hj)
        · by_cases hij : j = i
          · subst hij
            rw [show t.store.status j = .active tx from hactive] at hclosed
            cases hclosed
          · exact hsound.ended j c' response' (by simpa [hij] using hj) tx hactive
      · exact ⟨fun _ _ h => h, fun _ h => h, fun _ _ h => h, (Follows.refl t).late⟩
      · exact relies_of_step hsound (.stay t.store)
          ⟨fun _ _ h => h, fun _ h => h, fun _ _ h => h, (Follows.refl t).late⟩ (fun _ _ => rfl)
          (fun j hij => Function.update_of_ne hij _ _) fun e he _ => he

/-- The shared state after a request has begun. -/
def begun (i : ι) (s : Requests ι) : Requests ι :=
  { s with
    store := s.store.setTx i (.start s.store.rows)
    opened := Function.update s.opened i (some s.store.rows) }

theorem guar_begin (hsound : Sound platform s) (hfresh : s.store.status i = .fresh) :
    (contract platform).guar i s (begun i s) := by
  have hstep : Store.Step i s.store (begun i s).store := .begin s.store hfresh
  have hother := fun j hij => (hstep.leaves hsound.consistent (j := j) hij).status
  have hunopened := hsound.fresh i hfresh
  obtain ⟨hquiet, hsilent, hidle⟩ := hsound.unopened i hunopened
  have hopened : ∀ j, j ≠ i → (begun i s).opened j = s.opened j :=
    fun j hij => Function.update_of_ne hij _ _
  have hopened_self : (begun i s).opened i = some s.store.rows := Function.update_self _ _ _
  have hfollows : Follows s (begun i s) := by
    refine ⟨fun _ _ h => h, fun _ h => h, fun j snapshot hj => ?_, fun j snapshot hnone hj => ?_⟩
    · have hij : j ≠ i := by
        rintro rfl
        rw [hunopened] at hj
        cases hj
      rw [hopened j hij, hj]
    · by_cases hij : j = i
      · subst hij
        rw [hopened_self, Option.some.injEq] at hj
        exact fun k audit hk => hj ▸ hk
      · rw [hopened j hij, hnone] at hj
        cases hj
  refine ⟨⟨hstep.consistent hsound.consistent, hsound.free, fun k audit hk => ?_, fun e he => ?_,
    hsound.once, fun j snapshot hj => ?_, fun j hj => ?_, fun j hj => ?_,
    fun j c snapshot hmem hj => ?_, fun j c tx hmem hj => ?_, fun j c response hj tx hactive => ?_,
    fun j c response hj => ?_⟩, hfollows, relies_of_step hsound hstep hfollows hopened
    (fun _ _ => rfl) fun e he _ => he⟩
  · obtain ⟨e, result, hstored, hslot⟩ := hsound.rows k audit hk
    exact ⟨e, result, hstored.follows hfollows, hslot⟩
  · obtain ⟨result, hstored⟩ := hsound.log e he
    exact ⟨result, hstored.follows hfollows⟩
  · by_cases hij : j = i
    · subst hij
      rw [hopened_self, Option.some.injEq] at hj
      exact fun k audit hk => hj ▸ hk
    · rw [hopened j hij] at hj
      exact hsound.opened j snapshot hj
  · by_cases hij : j = i
    · subst hij
      rw [begun, Store.status_setTx_self] at hj
      cases hj
    · rw [hother j hij] at hj
      rw [hopened j hij]
      exact hsound.fresh j hj
  · have hij : j ≠ i := by
      rintro rfl
      rw [hopened_self] at hj
      cases hj
    rw [hopened j hij] at hj
    exact hsound.unopened j hj
  · have hij : j ≠ i := fun hij => hidle c (hij ▸ hmem)
    rw [hopened j hij] at hj
    exact hsound.executed j c snapshot hmem hj
  · have hij : j ≠ i := fun hij => hidle c (hij ▸ hmem)
    rw [hother j hij] at hj
    exact hsound.executing j c tx hmem hj
  · have hresponse : s.responses j = some (c, response) := hj
    have hij : j ≠ i := by
      rintro rfl
      rw [hsilent] at hresponse
      cases hresponse
    rw [hother j hij] at hactive
    exact hsound.ended j c response hresponse tx hactive
  · exact (hsound.answered j c response hj).follows hfollows fun e he _ => he

theorem holds_begin : Holds platform isolation i
    (fun r t => r = .ok () → Reaches i (fun tx _ => Unwritten tx) t)
    (Prog.invoke Call.begin) s := by
  apply Prog.Holds.invoke
  intro t _ outcome hsound
  by_cases hfresh : t.store.status i = .fresh
  · have hexec : exec isolation i outcome .begin t = (.ok (), begun i t) := by
      simp only [exec, Store.begin, hfresh]
      rfl
    have hquiet := (hsound.unopened i (hsound.fresh i hfresh)).1
    rw [hexec]
    exact ⟨guar_begin hsound hfresh, fun _ => .inr ⟨.start t.store.rows,
      ⟨Store.status_setTx_self, Function.update_self _ _ _, hquiet⟩, fun _ => rfl, rfl⟩⟩
  · have hexec : exec isolation i outcome .begin t = (.error .other, t) := by
      simp only [exec]
      rw [Store.begin]
      split
      next hbegun =>
        split at hbegun
        next h => exact absurd h hfresh
        next => cases hbegun
      next hbegun =>
        split at hbegun
        next h => exact absurd h hfresh
        next =>
          cases hbegun
          rfl
    rw [hexec]
    exact ⟨guar_refl hsound, fun hok => by cases hok⟩

/-- Every request keeps the rows, the log and the responses in agreement. -/
theorem holds_endpoint (c : Command) (i : ι) (s : Requests ι) :
    Holds platform isolation i (fun _ _ => True) (endpoint platform c) s := by
  unfold endpoint
  apply Prog.Holds.bind (Q := fun r t => r = .ok () → Reaches i (fun tx _ => Unwritten tx) t)
  · exact holds_begin
  · rintro _ t hbegun
    rcases hbegun rfl with hstopped | ⟨tx, hgoing, hunwritten⟩
    · exact holds_of_stopped (fun _ _ _ => trivial) hstopped
    apply Prog.Holds.bind (Q := fun r u => ∃ r', r = .ok r' ∧ Reaches i (Finishes platform i c r') u)
    · exact (holds_runIdempotent hgoing hunwritten).attempt fun r u h => ⟨r, rfl, h⟩
    · rintro r u ⟨r', hr, hreaches⟩
      injection hr with hr
      subst hr
      rcases hreaches with hstopped | ⟨tx, hgoing, hfinishes⟩
      · exact holds_of_stopped (fun _ _ _ => trivial) hstopped
      · cases r with
        | ok reply =>
          exact (holds_commit hgoing hfinishes).bind (fun _ v h => holds_respond h)
            fun _ _ _ => trivial
        | error e =>
          exact (holds_rollback hgoing hfinishes).bind (fun _ v h => holds_respond h)
            fun _ _ _ => trivial
    · exact fun _ _ _ => trivial
  · exact fun _ _ _ => trivial

end Endpoint

/-! ## Interleavings -/

section Runs
variable {s : Requests ι} {i : ι}

theorem follows_stop (i : ι) (s : Requests ι) : Follows s (stop i s) :=
  ⟨fun _ _ h => h, fun _ h => h, fun _ _ h => h, (Follows.refl s).late⟩

theorem relies_stop (i j : ι) (s : Requests ι) : Relies j s (stop i s) := by
  refine ⟨?_, follows_stop i s, rfl, rfl, fun _ h _ => h⟩
  by_cases hij : j = i
  · subst hij
    exact .inl Store.status_finish_self
  · exact .inr (Store.leaves_finish hij s.store _)

theorem Sound.stop (h : Sound platform s) (i : ι) : Sound platform (stop i s) := by
  have hstatus : ∀ j tx, (Idempotency.stop i s).store.status j = .active tx →
      s.store.status j = .active tx := by
    intro j tx hj
    by_cases hij : j = i
    · subst hij
      rw [Idempotency.stop, Store.stop, Store.status_finish_self] at hj
      cases hj
    · rwa [Idempotency.stop, Store.stop, Store.status_finish_of_ne hij] at hj
  refine h.of_same rfl rfl rfl (fun _ _ h => .inl h) (fun _ _ _ h => .inl h)
    (h.consistent.finish (by simp)) (fun j k hk => h.free j k (Store.locks_finish.mp hk).1)
    (fun j hj => ?_) (fun j c tx hmem hj => h.executing j c tx hmem (hstatus j tx hj))
    fun j c response hj tx hactive => h.ended j c response hj tx (hstatus j tx hactive)
  by_cases hij : j = i
  · subst hij
    rw [Idempotency.stop, Store.stop, Store.status_finish_self] at hj
    cases hj
  · rw [Idempotency.stop, Store.stop, Store.status_finish_of_ne hij] at hj
    exact h.fresh j hj

/-- Every request keeps its side of the contract, and what is stored is sound. -/
def Orderly (platform : Platform) (isolation : Isolation)
    (s : Pool Call Call.Answer FrappeException Unit ι (Requests ι)) : Prop :=
  Pool.AllHold (exec isolation) (contract platform) s ∧ Sound platform s.shared

theorem Orderly.step {s : Pool Call Call.Answer FrappeException Unit ι (Requests ι)}
    (h : Orderly platform isolation s)
    (e : Event ι Command (Except FrappeException (List (String × Json))) ι) :
    Orderly platform isolation ((machine platform isolation).step s e).2 ∧
      Follows s.shared ((machine platform isolation).step s e).2.shared := by
  obtain ⟨hall, hsound⟩ := h
  have hallowed : Pool.Allowed (contract platform) (fun _ _ => True) s e := by
    cases e with
    | start i c => trivial
    | step i outcome => exact fun _ _ _ => hsound
    | other i => trivial
  have hnext : Pool.AllHold (exec isolation) (contract platform)
      ((machine platform isolation).step s e).2 :=
    hall.step holds_endpoint (fun i j s t hij hguar => hguar.2.2 i hij)
      (fun j i s _ => relies_stop i j s) hallowed
  cases e with
  | start i c =>
    refine ⟨⟨hnext, ?_⟩, ?_⟩
    · exact Pool.shared_start (P := Sound platform) i c hsound
    · exact Pool.shared_start (P := Follows s.shared) i c (.refl _)
  | step i outcome =>
    refine ⟨⟨hnext, ?_⟩, ?_⟩
    · exact Pool.shared_step (P := Sound platform) i outcome hsound fun call next hrun =>
        (hall.guar hrun hsound).1
    · exact Pool.shared_step (P := Follows s.shared) i outcome (.refl _) fun call next hrun =>
        (hall.guar hrun hsound).2.1
  | other i => exact ⟨⟨hnext, hsound.stop i⟩, follows_stop i s.shared⟩

theorem Orderly.final {s : Pool Call Call.Answer FrappeException Unit ι (Requests ι)}
    (h : Orderly platform isolation s)
    (events : List (Event ι Command (Except FrappeException (List (String × Json))) ι)) :
    Orderly platform isolation ((machine platform isolation).final s events) ∧
      Follows s.shared ((machine platform isolation).final s events).shared := by
  induction events generalizing s with
  | nil => exact ⟨h, .refl _⟩
  | cons e events ih =>
    obtain ⟨hnext, hfollows⟩ := h.step e
    obtain ⟨hfinal, hfollows'⟩ := ih hnext
    exact ⟨hfinal, hfollows.trans hfollows'⟩

theorem orderly_initial : Orderly platform isolation (initial (ι := ι)) := by
  refine ⟨?_, ⟨?_, ?_⟩, ?_, ?_, ?_, List.nodup_nil, ?_, ?_, ?_, ?_, ?_, ?_, ?_⟩
  · intro i p hp
    cases hp
  · intro i tx k hactive
    cases hactive
  · intro i k hlock
    cases hlock
  · exact fun _ _ _ => rfl
  · intro k audit hk
    cases hk
  · intro e he
    cases he
  · intro i snapshot hi
    cases hi
  · exact fun _ _ => rfl
  · intro i _
    exact ⟨List.forall_mem_nil _, rfl, fun c => List.not_mem_nil⟩
  · intro i c snapshot hmem
    cases hmem
  · intro i c tx hmem
    cases hmem
  · intro i c response hi
    cases hi
  · intro i c response hi
    cases hi

end Runs

/-! ## Exactly once -/

section Claims
variable {s t : Requests ι} {i : ι} {c : Command}

/-- The command, the actor and the payload are the same. -/
def Command.Same (c c' : Command) : Prop :=
  c.command = c'.command ∧ c.actor = c'.actor ∧ c.payload = c'.payload

theorem Command.same_iff_text {c c' : Command} : c.Same c' ↔ c.text = c'.text := by
  constructor
  · rintro ⟨hcommand, hactor, hpayload⟩
    rw [Command.text, Command.text, hcommand, hactor, hpayload]
  · intro h
    have hjson := Json.dumpsAscii_injective h
    simp only [Json.obj.injEq, List.cons.injEq, Prod.mk.injEq, Json.str.injEq, true_and,
      and_true] at hjson
    exact ⟨hjson.2.1, hjson.1, hjson.2.2⟩

/-- The commands come with the same key at the same site. -/
def Command.SameKey (c c' : Command) : Prop := c.site = c'.site ∧ c.key = c'.key

theorem Command.SameKey.slot {c c' : Command} (h : c.SameKey c') :
    c.slot platform = c'.slot platform := by
  rw [Command.slot, Command.slot, h.1, h.2]

/-- At most one execution is committed for a key of a site. -/
def AtMostOnce (s : Requests ι) : Prop :=
  (s.store.log.map fun e => (e.command.site, e.command.key)).Nodup

/-- A request that has not begun in `s` does not execute a command again that is committed there,
and is answered with the result that is stored. -/
def ReplaysAfter (s t : Requests ι) : Prop :=
  ∀ e ∈ s.store.log, ∀ i, s.opened i = none → ∀ c : Command, c.SameKey e.command →
    c.Same e.command → (i, c) ∉ t.executions ∧ ∀ response, t.responses i = some (c, response) →
      ∃ result, e.outcome = .ok result ∧ response = .ok ⟨result, true, e.command.requestId⟩

/-- A request with the key of a committed command that is another one raises, and commits nothing. -/
def RefusesOthers (s : Requests ι) : Prop :=
  ∀ e ∈ s.store.log, ∀ i c response, s.responses i = some (c, response) → c.SameKey e.command →
    ¬ c.Same e.command → (∃ error, response = .error error) ∧ ∀ e' ∈ s.store.log, e'.call ≠ i

/-- No two payloads of the run have one digest. -/
def CollisionFree (platform : Platform) (s : Requests ι) : Prop :=
  ∀ e ∈ s.store.log, ∀ i c response, s.responses i = some (c, response) →
    commandPayloadHash platform c = commandPayloadHash platform e.command →
    c.text = e.command.text

omit [DecidableEq ι] in
theorem Sound.eq_of_slot (h : Sound platform s) {e e' : Execution ι} (he : e ∈ s.store.log)
    (he' : e' ∈ s.store.log) (hslot : e.command.slot platform = e'.command.slot platform) :
    e = e' := List.inj_on_of_nodup_map h.once he he' hslot

omit [DecidableEq ι] in
theorem Sound.atMostOnce (h : Sound platform s) : AtMostOnce s := by
  have honce := h.once
  have hslot : (fun e : Execution ι => e.command.slot platform) =
      (fun key : String × String => (key.1, auditName platform key.1 key.2)) ∘
        fun e => (e.command.site, e.command.key) := rfl
  rw [hslot, ← List.map_map] at honce
  exact List.Nodup.of_map _ honce

omit [DecidableEq ι] in
theorem Sound.replaysAfter (hs : Sound platform s) (ht : Sound platform t) (h : Follows s t) :
    ReplaysAfter s t := by
  intro e he i hunopened c hkey hsame
  obtain ⟨result, hstored⟩ := hs.log e he
  have hslot : c.slot platform = e.command.slot platform := hkey.slot
  have hseen : ∀ snapshot, t.opened i = some snapshot →
      snapshot (c.slot platform) = some (e.command.completed platform result) := by
    intro snapshot hopened
    exact h.late i snapshot hunopened hopened _ _ (hslot ▸ hstored.row)
  refine ⟨fun hmem => ?_, fun response hresponse => ?_⟩
  · cases hopened : t.opened i with
    | none => exact (ht.unopened i hopened).2.2 c hmem
    | some snapshot =>
      have hnone := ht.executed i c snapshot hmem hopened
      rw [hseen snapshot hopened] at hnone
      cases hnone
  · refine ⟨result, hstored.outcome, ?_⟩
    have hanswered := ht.answered i c response hresponse
    cases response with
    | error error =>
      obtain ⟨-, snapshot, hopened, hhash⟩ := hanswered
      refine absurd ?_ (hhash _ (hseen snapshot hopened))
      show commandPayloadHash platform e.command = commandPayloadHash platform c
      rw [commandPayloadHash, commandPayloadHash, Command.same_iff_text.mp hsame]
    | ok reply =>
      rcases hanswered with ⟨hreplayed, e', hstored', hslot', -, hid⟩ | ⟨-, -, hmem⟩
      · have heq := ht.eq_of_slot hstored'.mem (h.log e he) (hslot'.trans hslot)
        have hresult : reply.result = result := by
          have houtcome := hstored'.outcome
          rw [heq, hstored.outcome, Except.ok.injEq] at houtcome
          exact houtcome.symm
        rw [heq] at hid
        rw [← hresult, ← hreplayed, ← hid]
      · -- an execution of its own would be the one that was committed before it began
        have heq := ht.eq_of_slot hmem (h.log e he) hslot
        exact absurd (congrArg Execution.call heq).symm ((hs.unopened i hunopened).1 e he)

omit [DecidableEq ι] in
theorem Sound.refusesOthers (h : Sound platform s) (hfree : CollisionFree platform s) :
    RefusesOthers s := by
  intro e he i c response hresponse hkey hother
  have hslot : c.slot platform = e.command.slot platform := hkey.slot
  have hanswered := h.answered i c response hresponse
  cases response with
  | error error => exact ⟨⟨error, rfl⟩, hanswered.1⟩
  | ok reply =>
    refine absurd ?_ hother
    rcases hanswered with ⟨-, e', hstored, hslot', hhash, -⟩ | ⟨-, -, hmem⟩
    · have heq := h.eq_of_slot hstored.mem he (hslot'.trans hslot)
      rw [heq] at hhash
      exact Command.same_iff_text.mpr (hfree e he i c _ hresponse hhash.symm)
    · have heq := h.eq_of_slot hmem he hslot
      have hcommand : c = e.command := congrArg Execution.command heq
      rw [hcommand]
      exact ⟨rfl, rfl, rfl⟩

/-! ## Running again -/

/-- What a request leaves when it fails: it holds no name, and one that was executing its command
held the name, which nothing is committed under. -/
def LeavesNothing (platform : Platform) (s : Requests ι) : Prop :=
  (∀ i, (s.store.status i = .stopped ∨ ∃ c error, s.responses i = some (c, .error error)) →
    ∀ k, s.store.locks k ≠ some i) ∧
  ∀ i c tx, (i, c) ∈ s.executions → s.store.status i = .active tx →
    s.store.locks (c.slot platform) = some i ∧ s.store.rows (c.slot platform) = none

omit [DecidableEq ι] in
theorem Sound.leavesNothing (h : Sound platform s) : LeavesNothing platform s := by
  constructor
  · rintro i hfailed k hlock
    obtain ⟨tx, hactive⟩ := h.consistent.held i k hlock
    rcases hfailed with hstopped | ⟨c, error, hresponse⟩
    · rw [hstopped] at hactive
      cases hactive
    · exact h.ended i c _ hresponse tx hactive
  · intro i c tx hmem hactive
    have hlock := h.consistent.locked i tx _ hactive (h.executing i c tx hmem hactive)
    exact ⟨hlock, h.free i _ hlock⟩

/-- Alone, a request whose name is free inserts it, executes its command and stores the result. -/
theorem solo_runIdempotent (isolation : Isolation) {tx : Tx Slot Audit (Execution ι)}
    (hactive : s.store.status i = .active tx) (hunwritten : Unwritten tx) (hseen : tx.snapshot (c.slot platform) = none)
    (hrow : s.store.rows (c.slot platform) = none)
    (hlock : s.store.locks (c.slot platform) = none) (members : List (String × Json)) :
    ∃ t tx', (runIdempotent platform c).solo (exec isolation) i (.ok members) s =
        (.ok ⟨.obj members, false, c.requestId⟩, t) ∧ t.store.status i = .active tx' ∧
      tx'.logged = [⟨i, c, .ok (.obj members)⟩] ∧ t.store.log = s.store.log := by
  obtain ⟨slot, hslot⟩ : ∃ slot, slot = c.slot platform := ⟨_, rfl⟩
  rw [← hslot] at hseen hrow hlock
  have hread : s.store.read i isolation slot = .ok none := by
    simp only [Store.read, hactive, hunwritten.1, Option.none_or]
    cases isolation with
    | repeatableRead => rw [hseen]
    | readCommitted => rw [hrow]
  have hload : (load slot).solo (exec isolation) i (.ok members) s = (.ok none, s) := by
    simp only [load, Prog.solo_invoke, exec, hread]
    rfl
  obtain ⟨s₁, hs₁⟩ : ∃ s₁, s₁ = { s with
    store := (s.store.holdLock i slot).setTx i (tx.put slot (c.authorized platform)) } := ⟨_, rfl⟩
  have hactive₁ : s₁.store.status i = .active (tx.put slot (c.authorized platform)) := by
    rw [hs₁]
    exact Store.status_setTx_self
  have hinsert : (insert slot (c.authorized platform)).attempt.solo (exec isolation) i
      (.ok members) s = (.ok (.ok ()), s₁) := by
    rw [Prog.solo_attempt]
    simp only [insert, Prog.solo_invoke, exec, Store.insert, hactive, Store.IsFree, hlock, hrow,
      hunwritten.1, Requests.after, hs₁]
    rfl
  obtain ⟨tx₂, htx₂⟩ : ∃ tx₂, tx₂ =
    (tx.put slot (c.authorized platform)).append ⟨i, c, .ok (.obj members)⟩ := ⟨_, rfl⟩
  obtain ⟨s₂, hs₂⟩ : ∃ s₂, s₂ = { s₁ with
    store := s₁.store.setTx i tx₂, executions := s₁.executions ++ [(i, c)] } := ⟨_, rfl⟩
  have hactive₂ : s₂.store.status i = .active tx₂ := by
    rw [hs₂]
    exact Store.status_setTx_self
  have hexecute : (execute c).solo (exec isolation) i (.ok members) s₁ =
      (.ok (.obj members), s₂) := by
    simp only [execute, Prog.solo_invoke, exec, Store.record, hactive₁, hs₂, htx₂]
    rfl
  obtain ⟨tx₃, htx₃⟩ : ∃ tx₃, tx₃ = tx₂.put slot (c.completed platform (.obj members)) := ⟨_, rfl⟩
  obtain ⟨s₃, hs₃⟩ : ∃ s₃, s₃ = { s₂ with store := (s₂.store.holdLock i slot).setTx i tx₃ } :=
    ⟨_, rfl⟩
  have hlock₂ : s₂.store.IsFree i slot := by
    refine .inr ?_
    rw [hs₂, hs₁]
    exact Store.locks_holdLock_self
  have hsave : (save slot (c.completed platform (.obj members))).solo (exec isolation) i
      (.ok members) s₂ = (.ok (), s₃) := by
    simp only [save, Prog.solo_invoke, exec, Store.write, hactive₂, hlock₂, Requests.after, hs₃,
      htx₃]
    rfl
  refine ⟨s₃, tx₃, ?_, by rw [hs₃]; exact Store.status_setTx_self, ?_, ?_⟩
  · rw [runIdempotent, ← hslot, Prog.solo_bind_ok hload]
    dsimp only
    rw [insertAndExecute, ← hslot, Prog.solo_bind_ok hinsert]
    dsimp only
    rw [Prog.solo_bind_ok hexecute, Prog.solo_bind_ok hsave]
    rfl
  · rw [htx₃, htx₂]
    show tx.logged ++ _ = _
    rw [hunwritten.2, List.nil_append]
  · rw [hs₃, hs₂, hs₁]
    rfl

/-- So does its request, which is committed and answered. -/
theorem solo_endpoint (isolation : Isolation) (hfresh : s.store.status i = .fresh)
    (hrow : s.store.rows (c.slot platform) = none)
    (hlock : s.store.locks (c.slot platform) = none) (members : List (String × Json)) :
    ∃ t, ((endpoint platform c).solo (exec isolation) i (.ok members) s).2 = t ∧
      t.responses i = some (c, .ok ⟨.obj members, false, c.requestId⟩) ∧
      t.store.log = s.store.log ++ [⟨i, c, .ok (.obj members)⟩] := by
  have hbegin : (Prog.invoke Call.begin : Request Unit).solo (exec isolation) i (.ok members) s =
      (.ok (), begun i s) := by
    simp only [Prog.solo_invoke, exec, Store.begin, hfresh]
    rfl
  obtain ⟨t, tx, hrun, hactive, hlogged, hlog⟩ := solo_runIdempotent isolation
    (s := begun i s) (c := c) Store.status_setTx_self ⟨fun _ => rfl, rfl⟩ hrow hrow hlock members
  have hcommit : (Prog.invoke Call.commit : Request Unit).solo (exec isolation) i (.ok members) t =
      (.ok (), committed i tx t) := by
    simp only [Prog.solo_invoke, exec, Store.commit, hactive, Requests.after]
    rfl
  have hclosed : (committed i tx t).store.status i = .closed := Store.status_finish_self
  refine ⟨_, rfl, ?_⟩
  rw [endpoint, Prog.solo_bind_ok hbegin, Prog.solo_bind_ok (by rw [Prog.solo_attempt, hrun])]
  dsimp only
  rw [Prog.solo_bind_ok hcommit]
  simp only [Prog.solo_invoke, exec, hclosed]
  refine ⟨Function.update_self _ _ _, ?_⟩
  show t.store.log ++ tx.logged = _
  rw [hlog, hlogged]
  rfl

end Claims

/-- A request that has not begun, and whose name is free, executes its command when it comes. -/
def RunsAgain (platform : Platform) (isolation : Isolation)
    (s : Pool Call Call.Answer FrappeException Unit ι (Requests ι)) : Prop :=
  ∀ i c (members : List (String × Json)), s.runs i = none → s.shared.store.status i = .fresh →
    s.shared.store.rows (c.slot platform) = none → s.shared.store.locks (c.slot platform) = none →
    ∃ n t, (machine platform isolation).final s
        (.start i c :: List.replicate n (.step i (.ok members))) = t ∧
      t.shared.responses i = some (c, .ok ⟨.obj members, false, c.requestId⟩) ∧
        t.shared.store.log = s.shared.store.log ++ [⟨i, c, .ok (.obj members)⟩]

theorem runs_again (s : Pool Call Call.Answer FrappeException Unit ι (Requests ι)) :
    RunsAgain platform isolation s := by
  intro i c members hrun hfresh hrow hlock
  have hstart : ((machine platform isolation).step s (.start i c)).2 =
      { s with runs := Function.update s.runs i (some (endpoint platform c)) } := by
    simp only [machine, Pool.machine, hrun]
  obtain ⟨n, hn⟩ := @Pool.exists_final_solo _ _ _ _ _ _ _ _ _ _ (endpoint platform) (exec isolation)
    stop (endpoint platform c) i (.ok members)
    { s with runs := Function.update s.runs i (some (endpoint platform c)) }
    (Function.update_self _ _ _)
  obtain ⟨t, ht, hresponse, hlog⟩ := solo_endpoint isolation hfresh hrow hlock members
  refine ⟨n, _, rfl, ?_⟩
  rw [Machine.final_cons, hstart, hn, ht]
  exact ⟨hresponse, hlog⟩

/-- **Commands are executed once**, in every interleaving of requests that may stop at any point:
at most one execution is committed for a key of a site, a request that begins later is answered from
it or refused, and what fails leaves the key to be used again. -/
theorem run_once (platform : Platform) (isolation : Isolation)
    (before after : List (Event ι Command (Except FrappeException (List (String × Json))) ι))
    (hfree : CollisionFree platform
      ((machine platform isolation).final initial (before ++ after)).shared) :
    let s := (machine platform isolation).final (initial (ι := ι)) before
    let t := (machine platform isolation).final initial (before ++ after)
    AtMostOnce t.shared ∧ ReplaysAfter s.shared t.shared ∧ RefusesOthers t.shared ∧
      LeavesNothing platform t.shared ∧ RunsAgain platform isolation t := by
  intro s t
  have hs : Orderly platform isolation s := (orderly_initial.final before).1
  obtain ⟨ht, hfollows⟩ := hs.final after
  rw [← Machine.final_append] at ht hfollows
  exact ⟨ht.2.atMostOnce, hs.2.replaysAfter ht.2 hfollows, ht.2.refusesOthers hfree,
    ht.2.leavesNothing, runs_again t⟩

/-- A command that comes twice. -/
def submitDraft : Command :=
  ⟨"acme", "key-0001", "ai_draft.submit_for_review", "admin", .obj [], "v4", "REQ-00000001"⟩

/-- A request of its own, which executes the command if it has to. -/
def submits (i : ℕ) :
    List (Event ℕ Command (Except FrappeException (List (String × Json))) ℕ) :=
  .start i submitDraft :: List.replicate 7 (.step i (.ok [("draft", .null)]))

theorem collisionFree_readsAll (s : Requests ℕ) : CollisionFree readsAll s :=
  fun _ _ _ _ _ _ h => String.ofList_injective h

theorem submitted_once :
    let s := (machine readsAll .repeatableRead).final initial (submits 0)
    let t := (machine readsAll .repeatableRead).final initial (submits 0 ++ submits 1)
    AtMostOnce t.shared ∧ ReplaysAfter s.shared t.shared ∧ RefusesOthers t.shared ∧
      LeavesNothing readsAll t.shared ∧ RunsAgain readsAll .repeatableRead t :=
  run_once readsAll .repeatableRead (submits 0) (submits 1) (collisionFree_readsAll _)

end EsanGbos.App.Idempotency
