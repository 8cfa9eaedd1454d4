import EsanGbos.LocalPilotRuntime.Pollers

/-!
# Starting a poller again

The process of a channel may stop and start at any time. A start compares the configured initial
checkpoint with the stored cursor, which the polls have moved by then.

## Main definitions

* `PullChannel.machine` — the polls of a channel and the starts of its process, in any order.
* `PullChannel.Restarts` — a start passes and changes nothing.
* `PullChannel.KeepsInitial` — an advance stays at the configured checkpoint.

## Main results

* `PullChannel.restarts_iff` — the runs all along which the process can be started again.
-/
namespace EsanGbos.LocalPilotRuntime
open Lib Observer

namespace PullChannel
variable {isImapCheckpoint : String → Bool} {key : ConnectorKey} {channel : PullChannel key}

/-! ## What a start does -/

/-- The stored cursor of the channel, if there is one. -/
def cursor (channel : PullChannel key) (s : Store) : Option String :=
  (s.checkpoints.get? (instanceOf channel.scope key)).bind Checkpoint.cursorValue

variable (isImapCheckpoint channel) in
/-- The rows of the channel are there, as its configuration has them. -/
structure Registered (s : Store) : Prop where
  checked : channel.requireInitialCheckpoint isImapCheckpoint = .ok ()
  routing : Store.validateConnectorRouting channel.teamRef channel.agentTaskType = .ok ()
  instance_ : ∃ row, s.instances.get? (instanceOf channel.scope key) = some row ∧
    row.teamRef = channel.teamRef ∧ row.agentTaskType = channel.agentTaskType
  checkpoint : ∃ row, s.checkpoints.get? (instanceOf channel.scope key) = some row

theorem storage_ok {α : Type} {op : Op α} {s s' : Store} {a : α} :
    (storage op).run s = (.ok a, s') ↔ op.run s = (.ok a, s') := by
  unfold storage
  rcases hrun : op.run s with ⟨_ | _, _⟩ <;> simp [Except.mapError, hrun]

theorem insertInstance_ok {k : Instance} {row found : ConnectorInstance} {s s' : Store}
    (h : (Store.insertInstance k row).run s = (.ok found, s')) :
    s'.instances.get? k = some found ∧ s'.checkpoints = s.checkpoints := by
  unfold Store.insertInstance at h
  rw [Proc.run_get_bind] at h
  cases hget : s.instances.get? k with
  | some existing =>
      rw [hget] at h
      obtain ⟨hfound, rfl⟩ := Prod.mk.inj h
      exact ⟨by rw [hget, Except.ok.inj hfound], rfl⟩
  | none =>
      rw [hget] at h
      obtain ⟨hfound, rfl⟩ := Prod.mk.inj h
      obtain rfl := Except.ok.inj hfound
      exact ⟨Dict.get?_set_self _ _ _, rfl⟩

theorem insertCheckpoint_ok {k : Instance} {row : Checkpoint} {s s' : Store}
    (h : (Store.insertCheckpoint k row).run s = (.ok (), s')) :
    s'.instances = s.instances ∧ ∃ found, s'.checkpoints.get? k = some found ∧
      (row.cursorValue = none →
        found.cursorValue = (s.checkpoints.get? k).bind Checkpoint.cursorValue) := by
  unfold Store.insertCheckpoint at h
  rw [Proc.run_get_bind] at h
  cases hget : s.checkpoints.get? k with
  | some existing =>
      simp only [hget, Option.isNone_some, Bool.false_eq_true, if_false] at h
      obtain rfl := (Prod.mk.inj h).2
      exact ⟨rfl, existing, hget, fun _ => rfl⟩
  | none =>
      simp only [hget, Option.isNone_none, if_true] at h
      by_cases hlength : row.checkpointId.toList.length ≤ 256
      · simp only [if_pos hlength] at h
        obtain rfl := (Prod.mk.inj h).2
        exact ⟨rfl, row, Dict.get?_set_self _ _ _, id⟩
      · simp only [if_neg hlength] at h
        cases (Prod.mk.inj h).1

/-- A registration that goes through. -/
theorem register_ok {s s' : Store} {registeredAt : Option Datetime} {row : ConnectorInstance}
    (h : (Store.registerConnectorInstance channel.scope key registeredAt 0 channel.teamRef
      channel.agentTaskType).run s = (.ok row, s')) :
    Store.validateConnectorRouting channel.teamRef channel.agentTaskType = .ok () ∧
      s'.instances.get? (instanceOf channel.scope key) = some row ∧
      row.teamRef = channel.teamRef ∧ row.agentTaskType = channel.agentTaskType ∧
      (∃ checkpoint, s'.checkpoints.get? (instanceOf channel.scope key) = some checkpoint) ∧
      channel.cursor s' = channel.cursor s := by
  unfold Store.registerConnectorInstance at h
  obtain ⟨now, hvalid, h⟩ := Proc.run_lift_bind_eq_ok.mp h
  have hrouting : Store.validateConnectorRouting channel.teamRef channel.agentTaskType =
      .ok () := by
    unfold Store.validateRegistration at hvalid
    obtain ⟨now', -, hvalid⟩ := Proc.bind_eq_ok.mp hvalid
    obtain ⟨u, hrouting, -⟩ := Proc.bind_eq_ok.mp hvalid
    exact hrouting
  rw [Proc.run_atomically_ok] at h
  obtain ⟨metadata, s₁, hinsert, h⟩ := Proc.run_bind_eq_ok.mp h
  by_cases hconflict : metadata.teamRef ≠ channel.teamRef ∨
      metadata.agentTaskType ≠ channel.agentTaskType
  · rw [if_pos hconflict] at h
    cases (Prod.mk.inj h).1
  rw [if_neg hconflict] at h
  obtain ⟨u, s₂, hcheckpoint, h⟩ := Proc.run_bind_eq_ok.mp h
  obtain ⟨hrow, rfl⟩ := Prod.mk.inj h
  obtain rfl := Except.ok.inj hrow
  obtain ⟨hget, hsame⟩ := insertInstance_ok hinsert
  obtain ⟨hinstances, found, hfound, hcursor⟩ := insertCheckpoint_ok hcheckpoint
  rw [not_or, not_not, not_not] at hconflict
  refine ⟨hrouting, by rw [hinstances, hget], hconflict.1, hconflict.2, ⟨found, hfound⟩, ?_⟩
  rw [cursor, hfound, cursor, ← hsame]
  exact hcursor rfl

/-- A registration that was made before is not made again. -/
theorem run_register (s : Store) (h : Registered isImapCheckpoint channel s)
    (registeredAt : Datetime) : ∃ row, (Store.registerConnectorInstance channel.scope key
      (some registeredAt) 0 channel.teamRef channel.agentTaskType).run s = (.ok row, s) := by
  obtain ⟨row, hrow, hteam, htask⟩ := h.instance_
  obtain ⟨checkpoint, hcheckpoint⟩ := h.checkpoint
  have hvalid : Store.validateRegistration (some registeredAt) 0 channel.teamRef
      channel.agentTaskType = .ok registeredAt := by
    simp only [Store.validateRegistration, requireAware_some, h.routing]
    rfl
  refine ⟨row, ?_⟩
  unfold Store.registerConnectorInstance
  rw [Proc.run_lift_bind, hvalid, Proc.run_atomically_ok]
  have hinsert : ∀ fresh, (Store.insertInstance (instanceOf channel.scope key) fresh).run s =
      (.ok row, s) := by
    intro fresh
    rw [Store.insertInstance, Proc.run_get_bind, hrow]
    rfl
  rw [Proc.run_bind_ok (hinsert _), if_neg (by simp [hteam, htask])]
  have hkeep : ∀ fresh, (Store.insertCheckpoint (instanceOf channel.scope key) fresh).run s =
      (.ok (), s) := by
    intro fresh
    rw [Store.insertCheckpoint, Proc.run_get_bind, hcheckpoint]
    rfl
  rw [Proc.run_bind_ok (hkeep _)]
  rfl

/-- The load of a registered channel. -/
theorem run_loadCheckpoint (s : Store) (h : Registered isImapCheckpoint channel s) :
    ∃ version status, (Store.loadCheckpoint channel.scope key).run s =
      (.ok (channel.cursor s, version, status), s) := by
  obtain ⟨row, hrow, -, -⟩ := h.instance_
  obtain ⟨checkpoint, hcheckpoint⟩ := h.checkpoint
  unfold Store.loadCheckpoint
  rw [Proc.run_get_bind, hrow, hcheckpoint]
  rw [cursor, hcheckpoint, Option.bind_some]
  exact ⟨_, _, rfl⟩

/-- The cursor is that of the configuration, if that names one. -/
def AtInitial (channel : PullChannel key) (s : Store) : Prop :=
  ∀ initial, channel.initialCheckpoint = some initial → channel.cursor s = some initial

/-- A swap that goes through writes the cursor. -/
theorem swap_ok {s s' : Store} {version : ℤ} {candidate : Option String} {now : Option Datetime}
    {row : Checkpoint} (h : (Store.compareAndSwapCheckpoint channel.scope key version candidate
      (version + 1) now).run s = (.ok row, s')) :
    s'.instances = s.instances ∧
      (∃ found, s'.checkpoints.get? (instanceOf channel.scope key) = some found) ∧
      channel.cursor s' = candidate := by
  unfold Store.compareAndSwapCheckpoint at h
  obtain ⟨at_, -, h⟩ := Proc.run_lift_bind_eq_ok.mp h
  rw [Proc.run_atomically_ok, Store.run_updateCheckpoint] at h
  split at h
  next found hfound =>
    obtain ⟨-, rfl⟩ := Prod.mk.inj h
    refine ⟨rfl, ⟨_, Dict.get?_set_self _ _ _⟩, ?_⟩
    simp only [cursor, Dict.get?_set_self, Option.bind_some]
  next => cases (Prod.mk.inj h).1

/-- A start that passes leaves the channel registered and the cursor at the configured one, which
it has written only where there was none. -/
theorem startUp_ok {s s' : Store} {registeredAt ensuredAt : Option Datetime}
    (h : (channel.startUp isImapCheckpoint registeredAt ensuredAt).run s = (.ok (), s')) :
    Registered isImapCheckpoint channel s' ∧ AtInitial channel s' ∧
      (channel.cursor s' = channel.cursor s ∨
        (channel.cursor s = none ∧ channel.cursor s' = channel.initialCheckpoint)) := by
  unfold startUp at h
  obtain ⟨u, hchecked, h⟩ := Proc.run_lift_bind_eq_ok.mp h
  obtain ⟨row, s₁, hregister, h⟩ := Proc.run_bind_eq_ok.mp h
  obtain ⟨hrouting, hrow, hteam, htask, hcheckpoint, hcursor⟩ :=
    register_ok (storage_ok.mp hregister)
  have hregistered : Registered isImapCheckpoint channel s₁ :=
    ⟨hchecked, hrouting, ⟨row, hrow, hteam, htask⟩, hcheckpoint⟩
  unfold ensureInitialCheckpoint at h
  obtain ⟨version, status, hload⟩ := run_loadCheckpoint s₁ hregistered
  rw [Proc.run_bind_ok (storage_ok.mpr hload)] at h
  unfold AtInitial
  cases hinitial : channel.initialCheckpoint with
  | none =>
      simp only [hinitial] at h
      obtain ⟨-, rfl⟩ := Prod.mk.inj h
      refine ⟨hregistered, fun initial hsome => ?_, .inl hcursor⟩
      cases hsome
  | some initial =>
      simp only [hinitial] at h
      by_cases hnone : channel.cursor s₁ = none
      · rw [if_pos hnone] at h
        obtain ⟨row', s₂, hswap, h⟩ := Proc.run_bind_eq_ok.mp h
        obtain ⟨-, rfl⟩ := Prod.mk.inj h
        obtain ⟨hinstances, hfound, hset⟩ := swap_ok (storage_ok.mp hswap)
        refine ⟨⟨hchecked, hrouting, ⟨row, by rw [hinstances, hrow], hteam, htask⟩, hfound⟩,
          fun i hi => ?_, .inr ⟨by rw [← hcursor, hnone], hset⟩⟩
        rw [hset, hi]
      · rw [if_neg hnone] at h
        by_cases hconflict : channel.cursor s₁ ≠ some initial
        · rw [if_pos hconflict] at h
          cases (Prod.mk.inj h).1
        · rw [if_neg hconflict] at h
          obtain ⟨-, rfl⟩ := Prod.mk.inj h
          rw [not_not] at hconflict
          exact ⟨hregistered, fun i hi => by rw [hconflict, hi], .inl hcursor⟩

/-- At the configured checkpoint a start passes and changes nothing. -/
theorem run_startUp {s : Store} (h : Registered isImapCheckpoint channel s)
    (hinitial : AtInitial channel s) (registeredAt : Datetime) (ensuredAt : Option Datetime) :
    (channel.startUp isImapCheckpoint (some registeredAt) ensuredAt).run s = (.ok (), s) := by
  unfold startUp
  rw [Proc.run_lift_bind, h.checked]
  obtain ⟨row, hregister⟩ := run_register s h registeredAt
  simp only [Proc.run_bind_ok (storage_ok.mpr hregister)]
  unfold ensureInitialCheckpoint
  obtain ⟨version, status, hload⟩ := run_loadCheckpoint s h
  rw [Proc.run_bind_ok (storage_ok.mpr hload)]
  cases hconfigured : channel.initialCheckpoint with
  | none => rfl
  | some initial =>
      have hcursor := hinitial initial hconfigured
      simp only [hcursor, reduceCtorEq, if_false, ne_eq, not_true, Proc.run_pure]

/-- Without a clock that is aware of its zone, a start does not get beyond the registration. -/
theorem startUp_snd {s : Store} (h : Registered isImapCheckpoint channel s)
    (hinitial : AtInitial channel s) (registeredAt ensuredAt : Option Datetime) :
    ((channel.startUp isImapCheckpoint registeredAt ensuredAt).run s).2 = s := by
  cases registeredAt with
  | some registeredAt => rw [run_startUp h hinitial]
  | none =>
      unfold startUp
      rw [Proc.run_lift_bind, h.checked]
      rfl

/-! ## Runs -/

variable (isImapCheckpoint channel) in
/-- A start passes and changes nothing, so that the polls after it go on from the stored cursor. -/
def Restarts (s : Polling) : Prop :=
  ∀ registeredAt ensuredAt : Datetime,
    (channel.startUp isImapCheckpoint (some registeredAt) (some ensuredAt)).run s.store =
      (.ok (), s.store)

theorem restarts_iff_atInitial {s : Polling} (h : Registered isImapCheckpoint channel s.store) :
    Restarts isImapCheckpoint channel s ↔ AtInitial channel s.store := by
  constructor
  · intro hrestarts
    exact (startUp_ok (hrestarts newYear newYear)).2.1
  · intro hinitial registeredAt ensuredAt
    exact run_startUp h hinitial registeredAt (some ensuredAt)

variable {ι : Type} [DecidableEq ι]

variable (isImapCheckpoint channel) in
/-- The polls of the channel, and starts of its process with their readings of the clock. -/
def machine : Machine (Pool PollingCall PollingCall.Answer Raise PollRunResult ι Polling)
    (Event ι Unit PollingChoice (Option Datetime × Option Datetime)) Unit :=
  Pool.machine (fun _ => channel.runner.runOnce) (fun _ => Polling.exec channel.scope key)
    fun times s =>
      { s with store := ((channel.startUp isImapCheckpoint times.1 times.2).run s.store).2 }

/-- The storage takes the advance of a checkpoint. -/
def Takes (channel : PullChannel key) (s : Polling) (x : PollingChoice) (version : ℤ)
    (candidate : Option String) (now : Datetime) : Prop :=
  (∀ e, x.fault ≠ some (.before e)) ∧
    (∃ checked, Store.validateSwap version candidate (version + 1) (some now) = .ok checked) ∧
      ∃ row, s.checkpoint channel.scope key = some row ∧ row.checkpointVersion = version

/-- No initial checkpoint is configured, or every advance that is taken stays there. -/
def KeepsInitial (channel : PullChannel key)
    (s : Pool PollingCall PollingCall.Answer Raise PollRunResult ι Polling) :
    Event ι Unit PollingChoice (Option Datetime × Option Datetime) → Prop
  | .step i x => ∀ version candidate now next,
      s.runs i = some (.call (.advanceCheckpoint version candidate now) next) →
        Takes channel s.shared x version candidate now →
          ∀ initial, channel.initialCheckpoint = some initial → candidate = some initial
  | _ => True

omit [DecidableEq ι] in
/-- The calls of a poll rewrite at most the checkpoint of the channel. -/
theorem rewrites_perform (x : PollingChoice) (c : PollingCall) (s : Polling) :
    ∃ R, Store.Rewrites (instanceOf channel.scope key) R s.store
      (Polling.perform channel.scope key x c s).2.store := by
  cases c with
  | loadCheckpoint => exact ⟨fun _ _ => True, .inl rfl⟩
  | poll cursor limit => exact ⟨fun _ _ => True, .inl rfl⟩
  | clock => exact ⟨fun _ _ => True, .inl rfl⟩
  | acceptDelivery delivery => exact ⟨fun _ _ => True, .inl rfl⟩
  | acquire owner now leaseSeconds =>
      exact ⟨_, Store.rewrites_changeLease channel.scope key (some now) s.store owner leaseSeconds
        "acquire" Store.mayAcquire⟩
  | release owner now =>
      exact ⟨_, Store.rewrites_releaseConnectorLease channel.scope key (some now) s.store owner⟩
  | advanceCheckpoint version candidate now =>
      exact ⟨_, Store.rewrites_compareAndSwapCheckpoint channel.scope key (some now) s.store version
        candidate (version + 1)⟩
  | updateHealth status errorCode now =>
      exact ⟨_, Store.rewrites_updateCheckpointHealth channel.scope key (some now) s.store status
        (if status = .healthy then some (some now) else none) errorCode⟩

omit [DecidableEq ι] in
/-- A rewritten checkpoint leaves the channel registered. -/
theorem Registered.rewrites {R : Checkpoint → Checkpoint → Prop} {s s' : Store}
    (h : Registered isImapCheckpoint channel s)
    (hrewrites : Store.Rewrites (instanceOf channel.scope key) R s s') :
    Registered isImapCheckpoint channel s' := by
  obtain rfl | ⟨row, row', -, -, rfl⟩ := hrewrites
  · exact h
  · exact ⟨h.checked, h.routing, h.instance_, _, Dict.get?_set_self _ _ _⟩

omit [DecidableEq ι] in
theorem registered_exec {s : Polling} (h : Registered isImapCheckpoint channel s.store)
    (x : PollingChoice) (c : PollingCall) :
    Registered isImapCheckpoint channel (Polling.exec channel.scope key x c s).2.store := by
  obtain ⟨R, hrewrites⟩ := @rewrites_perform key channel x c s
  have hperform := h.rewrites hrewrites
  unfold Polling.exec
  split
  · exact hperform
  · exact h
  · exact hperform

omit [DecidableEq ι] in
theorem cursor_eq (s : Polling) :
    channel.cursor s.store = (s.view channel.scope key).bind Polling.View.cursor := by
  rw [cursor, Polling.view, Polling.checkpoint]
  cases s.store.checkpoints.get? (instanceOf channel.scope key) <;> rfl

omit [DecidableEq ι] in
/-- Only an advance moves the cursor. -/
theorem cursor_exec {c : PollingCall} (hc : ∀ v u n, c ≠ .advanceCheckpoint v u n)
    (x : PollingChoice) (s : Polling) :
    channel.cursor (Polling.exec channel.scope key x c s).2.store = channel.cursor s.store := by
  rw [cursor_eq, cursor_eq]
  cases Polling.exec_effect channel.scope key x c s with
  | keep _ _ _ hview => rw [hview]
  | accept delivery _ _ hview => rw [hview]
  | advance v u n => exact absurd rfl (hc v u n)
  | record status errorCode now _ _ row hrow hview => rw [hrow, hview]; rfl

omit [DecidableEq ι] in
/-- A swap goes through if its arguments are valid and its version is the stored one. -/
theorem swap_cases (channel : PullChannel key) (s : Store) (version : ℤ)
    (candidate : Option String) (now : Datetime) :
    let run := (Store.compareAndSwapCheckpoint channel.scope key version candidate (version + 1)
      (some now)).run s
    let valid :=
      (∃ checked, Store.validateSwap version candidate (version + 1) (some now) = .ok checked) ∧
      ∃ row, s.checkpoints.get? (instanceOf channel.scope key) = some row ∧
        row.checkpointVersion = version
    (valid → ∃ row, run.1 = .ok row) ∧ (¬ valid → run.2 = s) := by
  unfold Store.compareAndSwapCheckpoint
  dsimp only
  rw [Proc.run_lift_bind]
  cases hvalid : Store.validateSwap version candidate (version + 1) (some now) with
  | error e =>
      refine ⟨?_, fun _ => rfl⟩
      rintro ⟨⟨_, h⟩, -⟩
      cases h
  | ok checked =>
      simp only [Proc.run_atomically, Store.run_updateCheckpoint]
      cases hrow : s.checkpoints.get? (instanceOf channel.scope key) with
      | none =>
          refine ⟨?_, fun _ => rfl⟩
          rintro ⟨-, _, h, -⟩
          cases h
      | some row =>
          by_cases hversion : row.checkpointVersion = version
          · simp [Option.filter, hversion]
          · simp [Option.filter, hversion]

omit [DecidableEq ι] in
/-- An advance moves the cursor exactly if the storage takes it. -/
theorem cursor_advance (x : PollingChoice) (version : ℤ) (candidate : Option String)
    (now : Datetime) (s : Polling) :
    let after := Polling.exec channel.scope key x (.advanceCheckpoint version candidate now) s
    (Takes channel s x version candidate now → channel.cursor after.2.store = candidate) ∧
      (¬ Takes channel s x version candidate now → after.2.store = s.store) := by
  obtain ⟨htaken, hrefused⟩ := swap_cases channel s.store version candidate now
  have hwrites : ∀ row, ((Store.compareAndSwapCheckpoint channel.scope key version candidate
      (version + 1) (some now)).run s.store).1 = .ok row →
      channel.cursor (Polling.perform channel.scope key x
        (.advanceCheckpoint version candidate now) s).2.store = candidate := by
    intro row hrow
    exact (swap_ok (Prod.ext hrow rfl)).2.2
  constructor
  · rintro ⟨hfault, hvalid⟩
    obtain ⟨row, hrow⟩ := htaken hvalid
    unfold Polling.exec
    split
    · exact hwrites row hrow
    next e hbefore => exact absurd hbefore (hfault e)
    · exact hwrites row hrow
  · intro hnot
    unfold Polling.exec
    split
    next hnone =>
      exact hrefused fun hvalid => hnot ⟨fun e he => (by rw [hnone] at he; cases he), hvalid⟩
    · rfl
    next e hafter =>
      exact hrefused fun hvalid => hnot ⟨fun e' he => (by rw [hafter] at he; cases he), hvalid⟩

omit [DecidableEq ι] in
theorem registered_startUp {s : Store} (h : Registered isImapCheckpoint channel s)
    (registeredAt ensuredAt : Option Datetime) : Registered isImapCheckpoint channel
      ((channel.startUp isImapCheckpoint registeredAt ensuredAt).run s).2 := by
  unfold startUp
  rw [Proc.run_lift_bind, h.checked]
  cases registeredAt with
  | none => exact h
  | some registeredAt =>
      obtain ⟨row, hregister⟩ := run_register s h registeredAt
      simp only [Proc.run_bind_ok (storage_ok.mpr hregister)]
      unfold ensureInitialCheckpoint
      obtain ⟨version, status, hload⟩ := run_loadCheckpoint s h
      rw [Proc.run_bind_ok (storage_ok.mpr hload)]
      cases channel.initialCheckpoint with
      | none => exact h
      | some initial =>
          by_cases hnone : channel.cursor s = none
          · simp only [if_pos hnone]
            have hswap := h.rewrites (Store.rewrites_compareAndSwapCheckpoint channel.scope key
              ensuredAt s version (some initial) (version + 1))
            exact Proc.run_bind_snd (P := Registered isImapCheckpoint channel) hswap
              fun row s' _ hs' => hs'
          · simp only [if_neg hnone]
            by_cases hconflict : channel.cursor s ≠ some initial
            · rw [if_pos hconflict]
              exact h
            · rw [if_neg hconflict]
              exact h

variable {s : Pool PollingCall PollingCall.Answer Raise PollRunResult ι Polling}

theorem registered_step (h : Registered isImapCheckpoint channel s.shared.store)
    (e : Event ι Unit PollingChoice (Option Datetime × Option Datetime)) :
    Registered isImapCheckpoint channel
      ((machine isImapCheckpoint channel).step s e).2.shared.store := by
  cases e with
  | start i p =>
      exact Pool.shared_start (P := fun t : Polling => Registered _ channel t.store) i p h
  | step i x =>
      exact Pool.shared_step (P := fun t : Polling => Registered _ channel t.store) i x h
        fun c next _ => registered_exec h x c
  | other times => exact registered_startUp h times.1 times.2

/-- An event keeps the process ready to start exactly if it keeps the configured checkpoint. -/
theorem restarts_step_iff (h : Registered isImapCheckpoint channel s.shared.store)
    (hrestarts : Restarts isImapCheckpoint channel s.shared)
    (e : Event ι Unit PollingChoice (Option Datetime × Option Datetime)) :
    Restarts isImapCheckpoint channel ((machine isImapCheckpoint channel).step s e).2.shared ↔
      KeepsInitial channel s e := by
  have hinitial : AtInitial channel s.shared.store := (restarts_iff_atInitial h).mp hrestarts
  rw [restarts_iff_atInitial (registered_step h e)]
  cases e with
  | start i p =>
      exact iff_of_true
        (Pool.shared_start (P := fun t : Polling => AtInitial channel t.store) i p hinitial) trivial
  | other times =>
      refine iff_of_true ?_ trivial
      have hsame := startUp_snd h hinitial times.1 times.2
      simp only [machine, Pool.machine, hsame]
      exact hinitial
  | step i x =>
      simp only [machine, Pool.machine, KeepsInitial]
      rcases hrun : s.runs i with _ | (r | ⟨c, next⟩)
      · exact iff_of_true hinitial fun v u n next hnext => (by cases hnext)
      · exact iff_of_true hinitial fun v u n next hnext => (by cases hnext)
      by_cases hadvance : ∃ v u n, c = .advanceCheckpoint v u n
      · obtain ⟨v, u, n, rfl⟩ := hadvance
        obtain ⟨hmoves, hkeeps⟩ := @cursor_advance key channel x v u n s.shared
        by_cases htakes : Takes channel s.shared x v u n
        · have hcursor := hmoves htakes
          constructor
          · rintro hafter v' u' n' next' hcall - initial hsome
            injection hcall with hcall
            injection hcall with hcall
            injection hcall with hv hu hn
            rw [← hu, ← hcursor]
            exact hafter initial hsome
          · intro hkeep initial hsome
            rw [hcursor]
            exact hkeep v u n next rfl htakes initial hsome
        · simp only [hkeeps htakes]
          refine iff_of_true hinitial fun v' u' n' next' hcall htakes' => ?_
          injection hcall with hcall
          injection hcall with hcall
          injection hcall with hv hu hn
          subst hv hu hn
          exact absurd htakes' htakes
      · push Not at hadvance
        refine iff_of_true ?_ fun v u n next' hcall => ?_
        · intro initial hsome
          rw [cursor_exec hadvance]
          exact hinitial initial hsome
        · injection hcall with hcall
          injection hcall with hcall
          exact absurd hcall (hadvance v u n)

/-- The pool of a process that has just started. -/
def started (accepted : List String) (s : Store) :
    Pool PollingCall PollingCall.Answer Raise PollRunResult ι Polling :=
  ⟨⟨s, accepted⟩, fun _ => none⟩

/-- After a first start, which writes the configured checkpoint at most where there is no cursor,
the process can be started again all along a run, without a change to the stored cursor, exactly if
every event of the run keeps the configured checkpoint. -/
theorem restarts_iff {before s : Store} {registeredAt ensuredAt : Option Datetime}
    (hstart : (channel.startUp isImapCheckpoint registeredAt ensuredAt).run before = (.ok (), s))
    (accepted : List String)
    (events : List (Event ι Unit PollingChoice (Option Datetime × Option Datetime))) :
    (channel.cursor s = channel.cursor before ∨
        (channel.cursor before = none ∧ channel.cursor s = channel.initialCheckpoint)) ∧
      ((∀ done, done <+: events → Restarts isImapCheckpoint channel
          ((machine isImapCheckpoint channel).final (started accepted s) done).shared) ↔
        (machine isImapCheckpoint channel).Guarded (KeepsInitial channel) (started accepted s)
          events) := by
  obtain ⟨hregistered, hinitial, hcursor⟩ := startUp_ok hstart
  refine ⟨hcursor, ?_⟩
  exact Machine.forall_prefix_iff_guarded
    (I := fun p : Pool PollingCall PollingCall.Answer Raise PollRunResult ι Polling =>
      Registered isImapCheckpoint channel p.shared.store)
    (P := fun p => Restarts isImapCheckpoint channel p.shared)
    (fun p e hp => registered_step hp e) (fun p e hp hrestarts => restarts_step_iff hp hrestarts e)
    hregistered ((restarts_iff_atInitial hregistered).mpr hinitial) events

/-! ## A mailbox and an archive -/

/-- A mailbox without an initial checkpoint. -/
def mailboxChannel : PullChannel mailbox where
  scope := acme
  teamRef := none
  agentTaskType := none
  initialCheckpoint := none
  runner := ⟨⟨"a", 60, .inl rfl, isIdentifier_a, by decide⟩, newYear, 10, by decide⟩

/-- A message arrives in the mailbox. -/
def mailboxBatch : PollBatch where
  disposition := .ok
  expectedCursor := none
  candidateCursor := some "1"
  deliveries := [⟨"m1", [104, 105], "message/rfc822", newYear, by decide, by decide⟩]
  errorCode := none
  error_none := ok_error_none
  candidate_some _ _ := rfl
  error_some := ok_error_some

/-- A poll of a channel by itself, in which the provider answers the batch. -/
def pollOnce (batch : PollBatch) :
    List (Event Unit Unit PollingChoice (Option Datetime × Option Datetime)) :=
  .start () () :: List.replicate 10 (.step () ⟨none, .ok batch, some newYear⟩)

/-- The store after the first start of a channel. -/
def firstStart {key : ConnectorKey} (channel : PullChannel key) :
    Except StartError Unit × Store :=
  (channel.startUp (fun _ => false) (some newYear) (some newYear)).run {}

/-- The mailbox, whose cursor the poll moves, can be started again after it. -/
theorem mailbox_restarts :
    Restarts (fun _ => false) mailboxChannel ((machine (fun _ => false) mailboxChannel).final
      (started [] (firstStart mailboxChannel).2) (pollOnce mailboxBatch)).shared := by
  have hstart : (mailboxChannel.startUp (fun _ => false) (some newYear) (some newYear)).run {} =
      (.ok (), (firstStart mailboxChannel).2) := rfl
  refine (restarts_iff hstart [] (pollOnce mailboxBatch)).2.mpr ?_ _ (List.prefix_refl _)
  refine Machine.Guarded.of_forall (fun e _ s => ?_) _
  cases e with
  | start i p => trivial
  | other times => trivial
  | step i x =>
      intro version candidate now next _ _ initial hinitial
      cases hinitial

def archive : ConnectorKey := ⟨.wecom, "archive", by decide⟩

/-- An archive that starts at its first message. -/
def archiveChannel : PullChannel archive where
  scope := acme
  teamRef := none
  agentTaskType := none
  initialCheckpoint := some "0"
  runner := ⟨⟨"a", 60, .inr rfl, isIdentifier_a, by decide⟩, newYear, 10, by decide⟩

/-- Its first message. -/
def archiveBatch : PollBatch where
  disposition := .ok
  expectedCursor := some "0"
  candidateCursor := some "1"
  deliveries := [⟨"m1", [104, 105], "application/json", newYear, by decide, by decide⟩]
  errorCode := none
  error_none := ok_error_none
  candidate_some _ _ := rfl
  error_some := ok_error_some

/-- After the first message the archive's process cannot be started again. -/
theorem archive_not_restarted : (firstStart archiveChannel).1 = .ok () ∧
    ¬ Restarts (fun _ => false) archiveChannel ((machine (fun _ => false) archiveChannel).final
      (started [] (firstStart archiveChannel).2) (pollOnce archiveBatch)).shared := by
  refine ⟨by decide +kernel, fun h => ?_⟩
  have hraised : ((archiveChannel.startUp (fun _ => false) (some newYear) (some newYear)).run
      ((machine (fun _ => false) archiveChannel).final (started [] (firstStart archiveChannel).2)
        (pollOnce archiveBatch)).shared.store).1 = .error (.channelConfig
          "persisted checkpoint conflicts with configured initial value") := by decide +kernel
  rw [h newYear newYear] at hraised
  cases hraised

end PullChannel
end EsanGbos.LocalPilotRuntime
