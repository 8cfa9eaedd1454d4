import EsanGbos.Observer.Scheduler

/-!
# Pauses under competing pollers

Any number of runs of one connector and the operator's commands, interleaved. The database
is watched for pauses: a run is overtaken when the checkpoint has turned to `paused` since
the run last loaded it. A run that is not overtaken never ends a pause; an overtaken one
does whenever its health report goes through.

## Main definitions

* `Watched` — the database with the runs that a pause has overtaken.
* `Watched.Sticky`, `Watched.Undisturbed` — what is wanted of a step, and what it takes.
* `Watched.run_sticky_iff` — over a whole run they are the same.
-/
namespace EsanGbos.Observer
open Lib

structure Watched (ι : Type) where
  polling : Polling
  overtaken : ι → Bool

namespace Watched
variable {ι : Type} [DecidableEq ι] (scope : TenantScope) (key : ConnectorKey)

/-- The checkpoint's status is `paused`. -/
def isPaused (s : Polling) : Bool := (s.view scope key).any fun row => row.status == .paused

/-- The database has gone from `s.polling` to `t`, in a step in which `loader` loaded it. -/
def watch (loader : Option ι) (s : Watched ι) (t : Polling) : Watched ι where
  polling := t
  overtaken i := isPaused scope key t &&
    (!isPaused scope key s.polling || (s.overtaken i && loader ≠ some i))

/-- The run that loads the checkpoint by the call, if it does. -/
def loaderOf (i : ι) : PollingCall → Option ι
  | .loadCheckpoint => some i
  | _ => none

def exec : Exec PollingCall PollingCall.Answer Raise ι PollingChoice (Watched ι) := fun i x c s =>
  ((Polling.exec scope key x c s.polling).1,
    watch scope key (loaderOf i c) s (Polling.exec scope key x c s.polling).2)

def command (c : OperatorCommand) (s : Watched ι) : Watched ι :=
  watch scope key none s (Polling.command scope key c s.polling)

abbrev Runs (ι : Type) := Pool PollingCall PollingCall.Answer Raise PollRunResult ι (Watched ι)

abbrev Step (ι : Type) (key : ConnectorKey) :=
  Event ι (DurablePollingScheduler key × ℤ) PollingChoice OperatorCommand

/-- The interleavings of runs and operator commands. -/
def machine : Machine (Runs ι) (Step ι key) Unit :=
  Pool.machine DurablePollingScheduler.program (exec scope key) (command scope key)

/-- No run has started yet. -/
def initial (start : Polling) : Runs ι := ⟨⟨start, fun _ => false⟩, fun _ => none⟩

/-- The checkpoint stays paused, but for a resume of the operator. -/
def Sticky (s : Runs ι) (e : Step ι key) : Prop :=
  isPaused scope key s.shared.polling = true →
    isPaused scope key ((machine scope key).step s e).2.shared.polling = true ∨
      ∃ c, e = .other c ∧ c.pause = false

/-- A health report that never reaches the database: the connection fails before it, or its
arguments are refused. -/
def Refused (x : PollingChoice) (status : ConnectorStatus) (errorCode : Option String)
    (now : Datetime) : Prop :=
  (∃ e, x.fault = some (.before e)) ∨ ∃ e, Store.validateHealth status (some now)
    (if status = .healthy then some (some now) else none) errorCode = .error e

/-- The health reports of `i` that would end a pause come before it is overtaken. -/
def Timely (i : ι) (x : PollingChoice) (c : PollingCall) (s : Watched ι) : Prop :=
  ∀ status errorCode now, c = .updateHealth status errorCode now → status ≠ .paused →
    s.overtaken i = true → Refused x status errorCode now

/-- No run reports health other than `paused` once it is overtaken. -/
def Undisturbed (s : Runs ι) : Step ι key → Prop
  | .step i x => ∀ c next, s.runs i = some (.call c next) → Timely i x c s.shared
  | _ => True

/-! ## Fresh runs -/

/-- Where `i` is not overtaken, the checkpoint is not paused. -/
def Fresh (i : ι) (s : Watched ι) : Prop :=
  s.overtaken i = false → isPaused scope key s.polling = false

/-- An overtaken run has missed a pause that still lasts. -/
def Lasting (s : Watched ι) : Prop :=
  ∀ i, s.overtaken i = true → isPaused scope key s.polling = true

variable {scope key}

theorem Lasting.watch (loader : Option ι) (s : Watched ι) (t : Polling) :
    Lasting scope key (watch scope key loader s t) := by
  intro i hi
  exact (Bool.and_eq_true_iff.mp hi).1

/-- A step in which `i` does not load the checkpoint keeps `i` fresh. -/
theorem Fresh.watch {i : ι} {loader : Option ι} {s : Watched ι} (h : Fresh scope key i s)
    (hloader : loader ≠ some i) (t : Polling) : Fresh scope key i (watch scope key loader s t) := by
  intro hnot
  by_contra hpaused
  have hpaused : isPaused scope key t = true := by simpa [Watched.watch] using hpaused
  simp only [Watched.watch, hpaused, Bool.true_and, Bool.or_eq_false_iff, Bool.not_eq_false',
    Bool.and_eq_false_iff, decide_eq_false_iff_not, hloader, not_false_eq_true, not_true_eq_false,
    or_false, ne_eq] at hnot
  rw [h hnot.2] at hnot
  cases hnot.1

/-- Loading a status other than `paused` makes a run fresh. -/
theorem fresh_of_loaded {i : ι} {x : PollingChoice} {s : Watched ι} {cursor : Option String}
    {version : ℤ} {status : ConnectorStatus}
    (h : (exec scope key i x .loadCheckpoint s).1 = .ok (cursor, version, status))
    (hstatus : status ≠ .paused) : Fresh scope key i (exec scope key i x .loadCheckpoint s).2 := by
  have h : (Polling.exec scope key x .loadCheckpoint s.polling).1 = .ok (cursor, version, status) := h
  rw [Polling.exec_ok h] at h
  obtain ⟨status', hload, hown⟩ := Polling.view_of_loadCheckpoint h
  obtain rfl := hown hstatus
  have hview : (Polling.exec scope key x .loadCheckpoint s.polling).2.view scope key =
      s.polling.view scope key := by
    cases Polling.exec_effect scope key x .loadCheckpoint s.polling with
    | keep _ _ _ hview _ => exact hview
  intro _
  change isPaused scope key (Polling.exec scope key x .loadCheckpoint s.polling).2 = false
  simp [isPaused, hview, hload, hstatus]

/-- A call that reports no other health than `paused` keeps a pause. -/
theorem isPaused_exec {x : PollingChoice} {c : PollingCall} {s : Polling}
    (hc : ∀ status errorCode now, c = .updateHealth status errorCode now → status = .paused)
    (h : isPaused scope key s = true) :
    isPaused scope key (Polling.exec scope key x c s).2 = true := by
  unfold isPaused at h ⊢
  cases Polling.exec_effect scope key x c s with
  | keep _ _ _ hview _ => rwa [hview]
  | accept _ _ _ hview _ => rwa [hview]
  | advance _ _ _ _ _ row hrow _ hview _ =>
      rw [hrow] at h
      rw [hview]
      exact h
  | record status errorCode now _ _ row _ hview _ =>
      rw [hview, hc status errorCode now rfl]
      rfl

/-- A refused report changes nothing. -/
theorem exec_of_refused {x : PollingChoice} {status : ConnectorStatus}
    {errorCode : Option String} {now : Datetime} {s : Polling}
    (h : Refused x status errorCode now) :
    (Polling.exec scope key x (.updateHealth status errorCode now) s).2 = s := by
  have hperform : (∃ e, Store.validateHealth status (some now)
      (if status = .healthy then some (some now) else none) errorCode = .error e) →
      (Polling.perform scope key x (.updateHealth status errorCode now) s).2 = s := by
    rintro ⟨e, he⟩
    simp only [Polling.perform, Polling.runOp, Store.updateCheckpointHealth, he, Proc.run_lift_bind]
  unfold Polling.exec
  rcases h with ⟨e, hbefore⟩ | hinvalid
  · rw [hbefore]
  · split
    · exact hperform hinvalid
    · rfl
    · exact hperform hinvalid

variable (scope key) in
/-- A report that is not refused is recorded. -/
theorem isPaused_of_not_refused {x : PollingChoice} {status : ConnectorStatus}
    {errorCode : Option String} {now : Datetime} {s : Polling}
    (h : ¬Refused x status errorCode now) (hstatus : status ≠ .paused) :
    isPaused scope key (Polling.exec scope key x (.updateHealth status errorCode now) s).2 =
      false := by
  obtain ⟨hbefore, hvalid⟩ := not_or.mp h
  have hperform : isPaused scope key
      (Polling.perform scope key x (.updateHealth status errorCode now) s).2 = false := by
    cases hchecked : Store.validateHealth status (some now)
        (if status = .healthy then some (some now) else none) errorCode with
    | error e => exact absurd ⟨e, hchecked⟩ hvalid
    | ok checked =>
        cases hrow : s.store.checkpoints.get? (instanceOf scope key) with
        | none =>
            have hview : s.view scope key = none := by
              simp only [Polling.view, Polling.checkpoint, hrow, Option.map_none]
            cases Polling.perform_effect scope key x
                (.updateHealth status errorCode now) s with
            | keep _ _ _ hkeep _ => simp [isPaused, hkeep, hview]
            | record _ _ _ _ _ row hsome _ _ => rw [hview] at hsome; cases hsome
        | some row =>
            obtain ⟨row', hrow', hset⟩ :=
              Store.run_updateCheckpointHealth scope key s.store hchecked hrow
            simp [isPaused, Polling.view, Polling.checkpoint, Polling.perform, Polling.runOp, hset,
              hrow', hstatus]
  unfold Polling.exec
  split
  · exact hperform
  next e he => exact absurd ⟨e, he⟩ hbefore
  · exact hperform

/-! ## A run keeps the pause -/

variable (scope key) in
/-- A run relies on staying fresh while others step, and keeps a pause itself. -/
def contract : Contract PollingCall ι PollingChoice (Watched ι) where
  rely i s t := Fresh scope key i s → Fresh scope key i t
  guar i s t := (∀ j, j ≠ i → Fresh scope key j s → Fresh scope key j t) ∧
    (isPaused scope key s.polling = true → isPaused scope key t.polling = true)
  allowed i x c s := Timely i x c s
  rely_refl _ _ h := h
  rely_trans _ _ _ _ h h' := h' ∘ h

variable (scope key) in
abbrev Holds {α : Type} (i : ι) (Q : Except Raise α → Watched ι → Prop) (p : PollingRun α)
    (s : Watched ι) : Prop := p.Holds (exec scope key) (contract scope key) i Q s

theorem exec_fresh_of_ne {i j : ι} (hij : j ≠ i) (x : PollingChoice) (c : PollingCall)
    {s : Watched ι} (h : Fresh scope key j s) : Fresh scope key j (exec scope key i x c s).2 := by
  apply h.watch
  intro hloader
  cases c <;> simp [loaderOf] at hloader
  exact hij hloader.symm

theorem exec_fresh {i : ι} {c : PollingCall} (hc : c ≠ .loadCheckpoint) (x : PollingChoice)
    {s : Watched ι} (h : Fresh scope key i s) : Fresh scope key i (exec scope key i x c s).2 := by
  apply h.watch
  cases c <;> simp [loaderOf] at hc ⊢

/-- Any call of a fresh run but a load. -/
theorem holds_call {i : ι} {c : PollingCall} (hc : c ≠ .loadCheckpoint) {s : Watched ι}
    (h : Fresh scope key i s) :
    (Prog.invoke c : PollingRun c.Answer).Holds (exec scope key) (contract scope key) i
      (fun _ t => Fresh scope key i t) s := by
  apply Prog.Holds.invoke
  intro t ht x hx
  have hfresh := ht h
  refine ⟨⟨fun j hj => exec_fresh_of_ne hj x c, fun hpaused => ?_⟩, exec_fresh hc x hfresh⟩
  change isPaused scope key (Polling.exec scope key x c t.polling).2 = true
  by_cases hhealth : ∃ status errorCode now, c = .updateHealth status errorCode now ∧ status ≠ .paused
  · obtain ⟨status, errorCode, now, rfl, hstatus⟩ := hhealth
    -- The run is overtaken, for it is fresh and the checkpoint is paused.
    have hovertaken : t.overtaken i = true := by
      by_contra hnot
      rw [hfresh (by simpa using hnot)] at hpaused
      cases hpaused
    rw [exec_of_refused (hx status errorCode now rfl hstatus hovertaken)]
    exact hpaused
  · refine isPaused_exec (fun status errorCode now heq => ?_) hpaused
    by_contra hstatus
    exact hhealth ⟨status, errorCode, now, heq, hstatus⟩

/-- A load, after which a run that goes on is fresh. -/
theorem holds_loadCheckpoint (i : ι) (s : Watched ι) :
    Holds scope key i (fun r t => ∀ a, r = .ok a → a.2.2 ≠ .paused →
      Fresh scope key i t) PollingState.loadCheckpoint s := by
  apply Prog.Holds.invoke
  intro t _ x _
  refine ⟨⟨fun j hj => exec_fresh_of_ne hj x _, fun hpaused => ?_⟩, ?_⟩
  · exact isPaused_exec (by intro _ _ _ h; cases h) hpaused
  · rintro ⟨cursor, version, status⟩ hok hstatus
    exact fresh_of_loaded hok hstatus

/-- The release of a lease, which needs no fresh run. -/
theorem holds_release (i : ι) (owner : String) (now : Datetime) (s : Watched ι) :
    Holds scope key i (fun _ _ => True) (PollingState.release owner now) s := by
  apply Prog.Holds.invoke
  intro t _ x _
  refine ⟨⟨fun j hj => exec_fresh_of_ne hj x _, fun hpaused => ?_⟩, trivial⟩
  exact isPaused_exec (by intro _ _ _ h; cases h) hpaused

section Parts
open DurablePollingScheduler
variable {i : ι} {s : Watched ι}

/-- A health report that ends a run. -/
theorem holds_report (status : ConnectorStatus) (errorCode : Option String) (now : Datetime)
    (result : PollRunResult) (h : Fresh scope key i s) :
    Holds scope key i (fun _ _ => True)
      (PollingState.updateHealth status errorCode now >>= fun _ => pure result) s := by
  apply (holds_call (by intro h; cases h) h).bind
  · intro _ t _
    trivial
  · intro _ t _
    trivial

theorem holds_acceptAll (deliveries : List RawDelivery) (h : Fresh scope key i s) :
    Holds scope key i (fun _ t => Fresh scope key i t)
      (acceptAll deliveries) s := by
  induction deliveries generalizing s with
  | nil => exact h
  | cons delivery deliveries ih =>
      apply (holds_call (c := .acceptDelivery delivery) (by intro h; cases h) h).bind
      · intro _ t ht
        exact ih ht
      · intro _ t ht
        exact ht

theorem holds_runBatch (cursor : Option String) (version : ℤ) (now : Datetime) (batch : PollBatch)
    (h : Fresh scope key i s) :
    Holds scope key i (fun _ _ => True) (runBatch cursor version now batch) s := by
  unfold runBatch
  split
  · exact holds_report _ _ _ _ h
  split
  · exact holds_report _ _ _ _ h
  apply Prog.Holds.bind (Q := fun _ t => Fresh scope key i t)
  · exact (holds_acceptAll batch.deliveries h).attempt fun _ _ ht => ht
  · intro accepted t ht
    cases accepted with
    | error e => exact holds_report _ _ _ _ ht
    | ok _ =>
        dsimp only
        split
        · exact holds_report _ _ _ _ ht
        apply Prog.Holds.bind (Q := fun _ u => Fresh scope key i u)
        · exact (holds_call (c := .advanceCheckpoint version batch.candidateCursor now)
            (by intro h; cases h) ht).attempt fun _ _ hu => hu
        · intro advanced u hu
          cases advanced <;> exact holds_report _ _ _ _ hu
        · intro _ _ _
          trivial
  · intro _ _ _
    trivial

theorem holds_underLease (limit : ℤ) (now : Datetime) :
    Holds scope key i (fun _ _ => True) (underLease limit now) s := by
  apply (holds_loadCheckpoint i s).bind
  · rintro ⟨cursor, version, status⟩ t ht
    dsimp only
    split
    · trivial
    next hstatus =>
      apply Prog.Holds.bind (Q := fun _ u => Fresh scope key i u)
      · exact (holds_call (c := .poll cursor limit) (by intro h; cases h)
          (ht _ rfl hstatus)).attempt fun _ _ hu => hu
      · intro polled u hu
        cases polled with
        | error e => exact holds_report _ _ _ _ hu
        | ok batch => exact holds_runBatch cursor version now batch hu
      · intro _ _ _
        trivial
  · intro _ _ _
    trivial

end Parts

/-- A run that keeps to the condition ends no pause. -/
theorem holds_runOnce (run : DurablePollingScheduler key × ℤ) (i : ι) (s : Watched ι) :
    Holds scope key i (fun _ _ => True) (DurablePollingScheduler.program run) s := by
  obtain ⟨scheduler, limit⟩ := run
  unfold DurablePollingScheduler.program DurablePollingScheduler.runOnce
  split
  · trivial
  apply (holds_loadCheckpoint i s).bind
  · rintro ⟨cursor, version, status⟩ t ht
    dsimp only
    split
    · trivial
    next hstatus =>
      apply (holds_call (c := .clock) (by intro h; cases h) (ht _ rfl hstatus)).bind
      · intro clocked u hu
        cases clocked with
        | none => trivial
        | some now =>
            apply Prog.Holds.bind (Q := fun _ v => Fresh scope key i v)
            · exact (holds_call
                (c := .acquire scheduler.workerId now scheduler.leaseSeconds)
                (by intro h; cases h) hu).attempt fun _ _ hv => hv
            · intro acquired v hv
              cases acquired with
              | error e => exact holds_report _ _ _ _ hv
              | ok _ =>
                  apply Prog.Holds.bind (Q := fun _ _ => True)
                  · exact (holds_underLease limit now).attempt fun _ _ _ => trivial
                  · intro result w _
                    apply (holds_release i scheduler.workerId now w).bind
                    · intro _ _ _
                      trivial
                    · intro _ _ _
                      trivial
                  · intro _ _ _
                    trivial
            · intro _ _ _
              trivial
      · intro _ _ _
        trivial
  · intro _ _ _
    trivial

/-! ## Pools -/

theorem allHold_step {s : Runs ι} {e : Step ι key}
    (h : Pool.AllHold (exec scope key) (contract scope key) s) (he : Undisturbed key s e) :
    Pool.AllHold (exec scope key) (contract scope key) ((machine scope key).step s e).2 := by
  refine h.step (B := fun _ _ => True) (fun p i s => holds_runOnce p i s) ?_ ?_ ?_
  · intro i j s t hij hguar
    exact hguar.1 i hij
  · intro i command s _ hfresh
    exact hfresh.watch (by simp) _
  · cases e with
    | start i p => trivial
    | step i x => exact fun c next hrun => he c next hrun
    | other command => trivial

theorem lasting_step {s : Runs ι} (h : Lasting scope key s.shared) (e : Step ι key) :
    Lasting scope key ((machine scope key).step s e).2.shared := by
  cases e with
  | start i p => exact Pool.shared_start (P := Lasting scope key) i p h
  | step i x =>
      exact Pool.shared_step (P := Lasting scope key) i x h fun _ _ _ => Lasting.watch _ _ _
  | other command => exact Lasting.watch _ _ _

theorem isPaused_command (c : OperatorCommand) (hpause : c.pause = true) {s : Watched ι}
    (h : isPaused scope key s.polling = true) :
    isPaused scope key (command scope key c s).polling = true := by
  change isPaused scope key (Polling.command scope key c s.polling) = true
  unfold isPaused at h ⊢
  obtain ⟨-, hview | ⟨row, -, hview⟩⟩ := Polling.view_command scope key c s.polling
  · rwa [hview]
  · rw [hview, if_pos hpause]
    rfl

theorem sticky_of_undisturbed {s : Runs ι} {e : Step ι key}
    (h : Pool.AllHold (exec scope key) (contract scope key) s) (he : Undisturbed key s e) :
    Sticky scope key s e := by
  intro hpaused
  cases e with
  | start i p =>
      exact .inl (Pool.shared_start (P := fun s : Watched ι => isPaused scope key s.polling = true) i p hpaused)
  | step i x =>
      refine .inl (Pool.shared_step (P := fun s : Watched ι => isPaused scope key s.polling = true) i x hpaused ?_)
      intro c next hrun
      exact (h.guar hrun (he c next hrun)).2 hpaused
  | other command =>
      cases hpause : command.pause with
      | true => exact .inl (isPaused_command command hpause hpaused)
      | false => exact .inr ⟨command, rfl, hpause⟩

theorem undisturbed_of_sticky {s : Runs ι} {e : Step ι key} (h : Lasting scope key s.shared)
    (he : Sticky scope key s e) : Undisturbed key s e := by
  cases e with
  | start i p => trivial
  | other command => trivial
  | step i x =>
      rintro c next hrun status errorCode now rfl hstatus hovertaken
      by_contra hrefused
      rcases he (h i hovertaken) with hafter | ⟨c, heq, -⟩
      · simp only [machine, Pool.machine, hrun] at hafter
        have hnot := isPaused_of_not_refused scope key (s := s.shared.polling) hrefused hstatus
        exact Bool.false_ne_true (hnot.symm.trans hafter)
      · cases heq

/-- A pause lasts until the operator resumes the connector, through every interleaving of
every number of runs, if and only if no run reports other health than `paused` once a pause
has overtaken it. -/
theorem run_sticky_iff (start : Polling) (events : List (Step ι key)) :
    (machine scope key).Guarded (Sticky scope key) (initial start) events ↔
      (machine scope key).Guarded (Undisturbed key) (initial start) events := by
  constructor
  · intro h
    refine h.imp (P := fun s => Lasting scope key s.shared) ?_ ?_ ?_
    · exact fun s e hs _ => lasting_step hs e
    · exact fun s e hs he => undisturbed_of_sticky hs he
    · intro i hi
      cases hi
  · intro h
    refine h.imp (P := Pool.AllHold (exec scope key) (contract scope key)) ?_ ?_ ?_
    · exact fun s e hs he => allHold_step hs he
    · exact fun s e hs he => sticky_of_undisturbed hs he
    · intro i p hp
      cases hp

/-! ## A pause that is lost -/

/-- A batch that starts at another cursor than the mailbox has. -/
def mismatched : PollBatch := ⟨.ok, some "7", none, [], none, ok_error_none, by decide, ok_error_some⟩

/-- Every call goes through. -/
def mismatchedPoll : PollingChoice := ⟨none, .ok mismatched, some newYear⟩

/-- One run loads a healthy checkpoint. Another takes the lease, polls and pauses. The first
then asks the clock and is refused the lease. -/
def lostPause : List (Step Bool mailbox) :=
  [.start false (poller "a" isIdentifier_a), .step false mismatchedPoll, .start true (poller "b" isIdentifier_b)] ++
    List.replicate 6 (.step true mismatchedPoll) ++ List.replicate 2 (.step false mismatchedPoll)

/-- The first run goes on to report that no lease was available, and the pause is lost. -/
theorem run_not_sticky : ¬∀ (start : Polling) (events : List (Step Bool mailbox)),
    (machine acme mailbox).Guarded (Sticky acme mailbox) (initial start) events := by
  intro h
  have hpaused : isPaused acme mailbox
      ((machine acme mailbox).final (initial Polling.registered) lostPause).shared.polling = true := by
    decide +kernel
  have hlost : isPaused acme mailbox ((machine acme mailbox).step
      ((machine acme mailbox).final (initial Polling.registered) lostPause)
      (.step false mismatchedPoll)).2.shared.polling = false := by decide +kernel
  rcases (h Polling.registered (lostPause ++ [.step false mismatchedPoll])).at hpaused with hkept | ⟨c, heq, -⟩
  · exact Bool.false_ne_true (hlost.symm.trans hkept)
  · cases heq

end Watched
end EsanGbos.Observer
