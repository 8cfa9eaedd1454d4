import EsanGbos.Observer.Control

/-!
# Commands that take effect once

A command is kept under its idempotency key in the transaction that gives it effect, and it has
effect only at the revision it names. So the revision of a connector counts what was committed on
it, and a command that is repeated is answered with what is kept.

## Main definitions

* `revisionOf` — the revision of a connector.
* `Commits` — a transaction that takes effect on a connector.
* `committed` — the revisions of a committed call.

## Main results

* `control_cases`, `routing_cases` — what a call does.
* `control_exactly_once` — what holds of every run.
-/
namespace EsanGbos.Observer.Control
open Lib Proc

/-! ## Revisions -/

/-- The revision of a connector, which is 0 before it is registered. -/
def revisionOf (s : Store) (k : Instance) : ℕ := (s.instances.get? k).elim 0 (·.controlRevision)

/-- A transaction that takes effect on a connector at the revision it expects. -/
structure Commits (s s' : Tables) (k : Instance) (expected : ℤ) : Prop where
  expected : (revisionOf s.store k : ℤ) = expected
  revision : revisionOf s'.store k = revisionOf s.store k + 1
  others : ∀ k', k' ≠ k → revisionOf s'.store k' = revisionOf s.store k'

/-- The rows of connectors stay as they are. -/
structure KeepsInstances (s s' : Store) : Prop where
  instances : s'.instances = s.instances

instance : IsPreorder Store KeepsInstances where
  refl _ := ⟨rfl⟩
  trans _ _ _ h h' := ⟨h'.instances.trans h.instances⟩

theorem KeepsInstances.refl (s : Store) : KeepsInstances s s := ⟨rfl⟩

theorem KeepsInstances.revisionOf_eq {s s' : Store} (h : KeepsInstances s s') (k : Instance) :
    revisionOf s' k = revisionOf s k := by
  unfold revisionOf
  rw [h.instances]

theorem Commits.trans {s s' s'' : Tables} {k : Instance} {expected : ℤ}
    (h : Commits s s' k expected) (h' : KeepsInstances s'.store s''.store) :
    Commits s s'' k expected where
  expected := h.expected
  revision := by rw [h'.revisionOf_eq, h.revision]
  others k' hk' := by rw [h'.revisionOf_eq, h.others k' hk']

theorem keepsInstances_updateDelivery (k : Instance × String) (p : InboundDelivery → Bool)
    (f : InboundDelivery → InboundDelivery) :
    Respects KeepsInstances (Store.updateDelivery k p f) := by
  refine respects_get fun s => ?_
  cases (s.deliveries.get? k).filter p with
  | none => exact .refl s
  | some row =>
      by_cases hmay : row.processingStatus.mayBecome (f row).processingStatus = true
      · simp only [hmay, if_true]
        exact ⟨rfl⟩
      · simpa [hmay] using KeepsInstances.refl s

theorem keepsInstances_enqueueProcessingJob (scope : TenantScope) (key : ConnectorKey)
    (deliveryId jobId idempotencyKey : String) (generation : ℕ) (now : Datetime)
    (maxAttempts : ℤ) : Respects KeepsInstances
      (Store.enqueueProcessingJob scope key deliveryId jobId idempotencyKey generation now
        maxAttempts) := by
  refine respects_get fun s => ?_
  dsimp only
  split
  · exact respects_ite (fun _ => respects_pure _) (fun _ => respects_throw _) s
  · split
    · exact .refl s
    · exact ⟨rfl⟩

theorem keepsInstances_replayDelivery (scope : TenantScope) (key : ConnectorKey)
    (deliveryId jobId idempotencyKey : String) (now : Option Datetime) (maxAttempts : ℤ) :
    Respects KeepsInstances
      (Store.replayDelivery scope key deliveryId jobId idempotencyKey now maxAttempts) := by
  refine respects_lift_bind fun checked => respects_atomically (respects_get fun s => ?_)
  dsimp only
  split
  · exact respects_ite (fun _ => respects_pure _)
      (fun _ => respects_bind (respects_throw _) fun _ => respects_pure _) s
  · refine respects_bind (keepsInstances_updateDelivery _ _ _) (fun requeued => ?_) s
    refine respects_ite (fun _ => ?_) fun _ => respects_bind (respects_throw _) fun _ => ?_
    all_goals exact respects_get fun s => keepsInstances_enqueueProcessingJob _ _ _ _ _ _ _ _ s

theorem keepsInstances_setCheckpointStatus (k : Instance) (pause : Bool) (now : Datetime)
    (s : Store) : KeepsInstances s (setCheckpointStatus k pause now s) := by
  unfold setCheckpointStatus
  split
  · exact .refl s
  · exact ⟨rfl⟩

/-! ## The steps of a transaction -/

section Steps
variable {s : Tables} {k : Instance} {now : Datetime} {currentTimestamp : Timestamptz}

/-- An update of a connector takes effect at the revision it expects, or has no effect. -/
theorem updateInstance_cases (expected : ℤ) (f : ConnectorInstance → ConnectorInstance)
    (miss : Option ConnectorInstance → Raise) :
    (∃ e, (updateInstance k expected now f miss).run s = (.error e, s)) ∨
      ∃ row s', (updateInstance k expected now f miss).run s = (.ok row, s') ∧
        s'.commands = s.commands ∧ row.controlRevision = revisionOf s'.store k ∧
        Commits s s' k expected := by
  unfold updateInstance
  rw [run_get_bind]
  dsimp only
  cases hrow : (s.store.instances.get? k).filter
      fun row => decide ((row.controlRevision : ℤ) = expected) with
  | none => exact .inl ⟨_, rfl⟩
  | some row =>
      obtain ⟨hget, hrevision⟩ := Option.filter_eq_some_iff.mp hrow
      have hbefore : revisionOf s.store k = row.controlRevision := by
        unfold revisionOf
        rw [hget]
        rfl
      refine .inr ⟨_, _, rfl, rfl, ?_, ?_, ?_, ?_⟩
      · dsimp only [revisionOf]
        rw [Dict.get?_set_self]
        rfl
      · rw [hbefore]
        exact of_decide_eq_true hrevision
      · rw [hbefore]
        dsimp only [revisionOf]
        rw [Dict.get?_set_self]
        rfl
      · intro k' hk'
        dsimp only [revisionOf]
        rw [Dict.get?_set_of_ne _ _ hk']

/-- A status that is loaded has passed its checks and has the revision of the connector. -/
theorem loadStatus_cases :
    (∃ e, (loadStatus k currentTimestamp).run s = (.error e, s)) ∨
      ∃ status, (loadStatus k currentTimestamp).run s = (.ok status, s) ∧
        status.check = .ok () ∧ status.revision = revisionOf s.store k := by
  unfold loadStatus
  rw [run_get_bind]
  dsimp only
  cases hinstance : s.store.instances.get? k with
  | none => exact .inl ⟨_, rfl⟩
  | some connector =>
      cases s.store.checkpoints.get? k with
      | none => exact .inl ⟨_, rfl⟩
      | some checkpoint =>
          dsimp only
          rw [run_lift_bind]
          cases hcheck : (statusFromRow s.store k connector checkpoint currentTimestamp).check with
          | error e => exact .inl ⟨e, rfl⟩
          | ok u =>
              refine .inr ⟨_, rfl, hcheck, ?_⟩
              unfold revisionOf
              rw [hinstance]
              rfl

end Steps

/-- The row of a command keeps its digest and its outcome. -/
structure Keeps (command : Command) (requestDigest : String) (result : ConnectorControlResult) :
    Prop where
  requestDigest : command.requestDigest = requestDigest
  responseStatus : command.responseStatus = result.status
  replayedCount : command.replayedCount = result.replayedCount
  check : result.check = .ok ()

section Transactions
variable {s : Tables} {scope : TenantScope} {key : ConnectorKey} {operation : ControlOperation}
  {expected : ℤ} {idempotencyKey requestDigest : String} {now : Datetime}
  {currentTimestamp : Timestamptz}

/-- A command that is concluded is kept with its outcome. -/
theorem conclude_cases (replayedCount : ℕ) :
    (∃ e, ((conclude scope key operation expected idempotencyKey requestDigest replayedCount now
        currentTimestamp).run s).1 = .error e) ∨
      ∃ result command, (conclude scope key operation expected idempotencyKey requestDigest
          replayedCount now currentTimestamp).run s = (.ok result,
            { s with commands := s.commands.set (scope.siteId, idempotencyKey) command }) ∧
        result.replayed = false ∧
        result.status.revision = revisionOf s.store (instanceOf scope key) ∧
        Keeps command requestDigest result := by
  unfold conclude
  obtain ⟨e, hload⟩ | ⟨status, hload, -, hrevision⟩ :=
    @loadStatus_cases s (instanceOf scope key) currentTimestamp
  · rw [run_bind_error hload]
    exact .inl ⟨e, rfl⟩
  · rw [run_bind_ok hload]
    dsimp only
    rw [run_lift_bind]
    cases hcheck : (⟨status, replayedCount, false⟩ : ConnectorControlResult).check with
    | error e => exact .inl ⟨e, rfl⟩
    | ok u =>
        dsimp only
        unfold insertCommand
        by_cases hbounds : 8 ≤ idempotencyKey.toList.length ∧
            idempotencyKey.toList.length ≤ 256 ∧ isDigest requestDigest = true
        · rw [if_pos hbounds]
          exact .inr ⟨_, _, rfl, rfl, hrevision, rfl, rfl, rfl, hcheck⟩
        · rw [if_neg hbounds]
          exact .inl ⟨_, rfl⟩

/-- How a command ends: it raises, it is answered with what is kept, or it takes effect. -/
inductive Outcome (s : Tables) (k : Instance) (expected : ℤ) (commandKey : String × String)
    (requestDigest : String) : Except Raise ConnectorControlResult × Tables → Prop where
  | raised (e : Raise) : Outcome s k expected commandKey requestDigest (.error e, s)
  | repeated {command : Command} (hget : s.commands.get? commandKey = some command)
      (hdigest : command.requestDigest = requestDigest) :
      Outcome s k expected commandKey requestDigest
        (.ok ⟨command.responseStatus, command.replayedCount, true⟩, s)
  | committed {result : ConnectorControlResult} {command : Command} {s' : Tables}
      (hnone : s.commands.get? commandKey = none) (hnew : result.replayed = false)
      (hcommits : Commits s s' k expected)
      (hrevision : result.status.revision = revisionOf s'.store k)
      (hkeeps : Keeps command requestDigest result)
      (hcommands : s'.commands = s.commands.set commandKey command) :
      Outcome s k expected commandKey requestDigest (.ok result, s')

/-- What a transaction does that looks for its command first. -/
theorem outcome_atomically {f : Option ConnectorControlResult → Op ConnectorControlResult}
    (hsome : ∀ existing, f (some existing) = pure existing)
    (hbody : ∀ r, (f none).run s = r → (∃ e, r.1 = .error e) ∨
      ∃ result command, r.1 = .ok result ∧ result.replayed = false ∧
        Commits s r.2 (instanceOf scope key) expected ∧
        result.status.revision = revisionOf r.2.store (instanceOf scope key) ∧
        Keeps command requestDigest result ∧
        r.2.commands = s.commands.set (scope.siteId, idempotencyKey) command) :
    Outcome s (instanceOf scope key) expected (scope.siteId, idempotencyKey) requestDigest
      ((atomically (lockAndLoadCommand scope idempotencyKey requestDigest >>= f)).run s) := by
  rw [run_atomically]
  unfold lockAndLoadCommand
  rw [run_bind, run_get_bind]
  cases hget : s.commands.get? (scope.siteId, idempotencyKey) with
  | none =>
      dsimp only [run_pure]
      rcases hrun : (f none).run s with ⟨answer, s'⟩
      rcases hbody _ hrun with ⟨e, herror⟩ |
        ⟨result, command, hresult, hnew, hcommits, hrevision, hkeeps, hcommands⟩
      · obtain rfl : answer = .error e := herror
        exact .raised e
      · obtain rfl : answer = .ok result := hresult
        exact .committed hget hnew hcommits hrevision hkeeps hcommands
  | some command =>
      dsimp only
      by_cases hdigest : command.requestDigest = requestDigest
      · rw [if_neg (not_not.mpr hdigest), run_lift_bind]
        cases (⟨command.responseStatus, command.replayedCount, true⟩ :
            ConnectorControlResult).check with
        | error e => exact .raised e
        | ok u =>
            dsimp only [run_pure]
            rw [hsome]
            exact .repeated hget hdigest
      · rw [if_pos hdigest]
        exact .raised _

/-- A transaction that has taken effect and goes on to keep its outcome. -/
theorem conclude_of_commits {s' : Tables} (replayedCount : ℕ)
    (hcommits : Commits s s' (instanceOf scope key) expected)
    (hcommands : s'.commands = s.commands)
    {r : Except Raise ConnectorControlResult × Tables}
    (hrun : (conclude scope key operation expected idempotencyKey requestDigest replayedCount now
      currentTimestamp).run s' = r) :
    (∃ e, r.1 = .error e) ∨
      ∃ result command, r.1 = .ok result ∧ result.replayed = false ∧
        Commits s r.2 (instanceOf scope key) expected ∧
        result.status.revision = revisionOf r.2.store (instanceOf scope key) ∧
        Keeps command requestDigest result ∧
        r.2.commands = s.commands.set (scope.siteId, idempotencyKey) command := by
  subst hrun
  obtain herror | ⟨result, command, hrun, hnew, hrevision, hkeeps⟩ := @conclude_cases s' scope key
    operation expected idempotencyKey requestDigest now currentTimestamp replayedCount
  · exact .inl herror
  · rw [hrun]
    refine .inr ⟨result, command, rfl, hnew, hcommits.trans ⟨rfl⟩, hrevision, hkeeps, ?_⟩
    dsimp only
    rw [hcommands]

theorem mutateStatus_outcome (pause : Bool) :
    Outcome s (instanceOf scope key) expected (scope.siteId, idempotencyKey) requestDigest
      ((mutateStatus scope key pause expected idempotencyKey requestDigest now
        currentTimestamp).run s) := by
  unfold mutateStatus
  refine outcome_atomically (fun _ => rfl) ?_
  dsimp only
  intro r hrun
  obtain ⟨e, hupdate⟩ | ⟨row, s', hupdate, hcommands, -, hcommits⟩ :=
    @updateInstance_cases s (instanceOf scope key) now expected
      (fun row => { row with status := if pause then .paused else .healthy }) Store.controlMiss
  · rw [run_bind_error hupdate] at hrun
    exact .inl ⟨e, by rw [← hrun]⟩
  · rw [run_bind_ok hupdate, run_modify_bind] at hrun
    refine conclude_of_commits 0 ?_ ?_ hrun
    · exact hcommits.trans (keepsInstances_setCheckpointStatus _ pause now s'.store)
    · exact hcommands

theorem replayFailed_outcome (tools : Tools) (cutoff : Datetime) (limit : ℕ)
    (locked : String → Bool) :
    Outcome s (instanceOf scope key) expected (scope.siteId, idempotencyKey) requestDigest
      ((replayFailed tools scope key expected idempotencyKey requestDigest cutoff limit now
        currentTimestamp locked).run s) := by
  unfold replayFailed
  refine outcome_atomically (fun _ => rfl) ?_
  dsimp only
  intro r hrun
  obtain ⟨e, hupdate⟩ | ⟨row, s', hupdate, hcommands, -, hcommits⟩ :=
    @updateInstance_cases s (instanceOf scope key) now expected id Store.controlMiss
  · rw [run_bind_error hupdate] at hrun
    exact .inl ⟨e, by rw [← hrun]⟩
  · rw [run_bind_ok hupdate, run_get_bind, run_bind] at hrun
    generalize hids : deliveryIds tools.collation s'.store (instanceOf scope key) cutoff.instant
      now.instant limit locked = ids at hrun
    -- the jobs of the deliveries are no concern of the connector
    have hkeeps : Respects KeepsInstances (ids.forM fun deliveryId => do
        let jobId := replayJobId tools scope key idempotencyKey deliveryId
        let _ ← Store.replayDelivery scope key deliveryId jobId ("replay:" ++ jobId) (some now)
          3) :=
      respects_forM (fun _ => respects_bind (keepsInstances_replayDelivery _ _ _ _ _ _ _) fun _ =>
        respects_pure _) ids
    have hinstances := hkeeps s'.store
    unfold onStore at hrun
    dsimp only at hrun
    split at hrun
    next u s'' heq =>
      obtain ⟨-, rfl⟩ := Prod.mk.inj heq
      refine conclude_of_commits ids.length ?_ ?_ hrun
      · exact hcommits.trans hinstances
      · exact hcommands
    next e s'' heq => exact .inl ⟨e, by rw [← hrun]⟩

/-- A command that is kept is answered with its outcome. -/
theorem run_atomically_repeated {f : Option ConnectorControlResult → Op ConnectorControlResult}
    (hsome : ∀ existing, f (some existing) = pure existing) {result : ConnectorControlResult}
    {command : Command} (hget : s.commands.get? (scope.siteId, idempotencyKey) = some command)
    (hkeeps : Keeps command requestDigest result) :
    (atomically (lockAndLoadCommand scope idempotencyKey requestDigest >>= f)).run s =
      (.ok { result with replayed := true }, s) := by
  have hresult : (⟨command.responseStatus, command.replayedCount, true⟩ :
      ConnectorControlResult) = { result with replayed := true } := by
    rw [hkeeps.responseStatus, hkeeps.replayedCount]
  have hcheck : ({ result with replayed := true } : ConnectorControlResult).check = .ok () :=
    hkeeps.check
  rw [run_atomically]
  unfold lockAndLoadCommand
  rw [run_bind, run_get_bind, hget]
  dsimp only
  rw [if_neg (not_not.mpr hkeeps.requestDigest), run_lift_bind, hresult, hcheck]
  dsimp only [run_pure]
  rw [hsome]
  rfl

end Transactions

/-! ## Calls -/

section Calls
variable {s : Tables} (tools : Tools) (request : Request) (reading : Reading)
  (currentTimestamp : Timestamptz) (locked : String → Bool)

/-- The key under which the command of a request is kept. -/
def Request.commandKey (request : Request) : String × String :=
  (request.scope.siteId, request.idempotencyKey)

/-- What a call of the service does. -/
theorem control_outcome :
    Outcome s (instanceOf request.scope request.key) request.expectedRevision request.commandKey
      (request.digest tools.py)
      ((control tools request reading currentTimestamp locked).run s) := by
  unfold control
  rw [run_lift_bind]
  cases request.validate with
  | error e => exact .raised e
  | ok u =>
      dsimp only
      cases request.action with
      | pause => exact mutateStatus_outcome true
      | resume => exact mutateStatus_outcome false
      | replay limit => exact replayFailed_outcome tools reading.cutoff limit.toNat locked

variable {tools request}

theorem validate_of_control {result : ConnectorControlResult} {s' : Tables}
    (h : (control tools request reading currentTimestamp locked).run s = (.ok result, s')) :
    request.validate = .ok () := by
  unfold control at h
  obtain ⟨u, hvalid, -⟩ := run_lift_bind_eq_ok.mp h
  exact hvalid

/-- A request that is repeated is answered with the outcome of the first. -/
theorem control_repeated {result : ConnectorControlResult} {command : Command}
    (hvalid : request.validate = .ok ())
    (hget : s.commands.get? request.commandKey = some command)
    (hkeeps : Keeps command (request.digest tools.py) result) :
    (control tools request reading currentTimestamp locked).run s =
      (.ok { result with replayed := true }, s) := by
  unfold control
  rw [run_lift_bind, hvalid]
  dsimp only
  cases request.action with
  | pause =>
      unfold mutateStatus
      exact run_atomically_repeated (fun _ => rfl) hget hkeeps
  | resume =>
      unfold mutateStatus
      exact run_atomically_repeated (fun _ => rfl) hget hkeeps
  | replay limit =>
      unfold replayFailed
      exact run_atomically_repeated (fun _ => rfl) hget hkeeps

/-- A key that is used for another request is refused. -/
theorem control_reused {command : Command}
    (hget : s.commands.get? request.commandKey = some command)
    (hdigest : command.requestDigest ≠ request.digest tools.py) :
    ∃ e, (control tools request reading currentTimestamp locked).run s = (.error e, s) := by
  generalize hrun : (control tools request reading currentTimestamp locked).run s = r
  have houtcome := control_outcome (s := s) tools request reading currentTimestamp locked
  rw [hrun] at houtcome
  cases houtcome with
  | raised e => exact ⟨e, rfl⟩
  | repeated hget' hdigest' =>
      obtain rfl := Option.some.inj (hget.symm.trans hget')
      exact absurd hdigest' hdigest
  | committed hnone =>
      rw [hget] at hnone
      cases hnone

/-- What an update of the routing does. -/
theorem routing_cases (scope : TenantScope) (key : ConnectorKey) (expected : ℤ)
    (teamRef : Option String) (agentTaskType : Option AgentTaskType) (now : Option Datetime) :
    (∃ e, (updateConnectorRouting scope key expected teamRef agentTaskType now).run s =
        (.error e, s)) ∨
      ∃ row s', (updateConnectorRouting scope key expected teamRef agentTaskType now).run s =
          (.ok row, s') ∧ s'.commands = s.commands ∧
        row.controlRevision = revisionOf s'.store (instanceOf scope key) ∧
        Commits s s' (instanceOf scope key) expected := by
  unfold updateConnectorRouting
  rw [run_lift_bind]
  cases validateRoutingUpdate expected teamRef agentTaskType now with
  | error e => exact .inl ⟨e, rfl⟩
  | ok now =>
      dsimp only
      rw [run_atomically]
      obtain ⟨e, hrun⟩ | ⟨row, s', hrun, hcommands, hrevision, hcommits⟩ :=
        @updateInstance_cases s (instanceOf scope key) now expected
          (fun row => { row with teamRef, agentTaskType })
          (fun _ => .connectorRoutingConflict "routing compare-and-swap rejected")
      · rw [hrun]
        exact .inl ⟨e, rfl⟩
      · rw [hrun]
        exact .inr ⟨row, s', rfl, hcommands, hrevision, hcommits⟩

end Calls

/-! ## Requests and their digests -/

theorem purposeText_injective : Function.Injective purposeText := by
  intro purpose purpose' h
  cases purpose <;> cases purpose' <;> first | rfl | exact absurd h (by decide)

/-- What the digest of a request is about determines the request, apart from its key. -/
theorem document_inj {request request' : Request} (h : request.document = request'.document)
    (hkey : request.idempotencyKey = request'.idempotencyKey) : request = request' := by
  have hparts : ∀ {scope scope' : TenantScope} {key key' : ConnectorKey} {expected expected' : ℤ}
      {action action' : Action} {k : String},
      scope.siteId = scope'.siteId → purposeText scope.processingPurpose =
        purposeText scope'.processingPurpose → key.connector.text = key'.connector.text →
      key.instanceId = key'.instanceId → expected = expected' → action = action' →
      (⟨scope, key, action, expected, k⟩ : Request) = ⟨scope', key', action', expected', k⟩ := by
    rintro ⟨site, purpose, _⟩ ⟨_, purpose', _⟩ ⟨connector, instance_, _⟩ ⟨connector', _, _⟩
    intro expected expected' action action' k hsite hpurpose hconnector hinstance hexpected haction
    obtain rfl := hsite
    obtain rfl := purposeText_injective hpurpose
    obtain rfl := ConnectorName.text_injective hconnector
    obtain rfl := hinstance
    obtain rfl := hexpected
    obtain rfl := haction
    rfl
  obtain ⟨scope, key, action, expected, k⟩ := request
  obtain ⟨scope', key', action', expected', k'⟩ := request'
  obtain rfl : k = k' := hkey
  unfold Request.document at h
  cases action <;> cases action' <;>
    simp only [List.cons_append, List.nil_append, Json.obj.injEq, List.cons.injEq, Prod.mk.injEq,
      Json.str.injEq, Json.int.injEq, true_and, and_true] at h
  case pause.pause =>
    obtain ⟨hconnector, hexpected, hinstance, hpurpose, hsite⟩ := h
    exact hparts hsite hpurpose hconnector hinstance hexpected rfl
  case resume.resume =>
    obtain ⟨hconnector, hexpected, hinstance, hpurpose, hsite⟩ := h
    exact hparts hsite hpurpose hconnector hinstance hexpected rfl
  case replay.replay limit limit' =>
    obtain ⟨hconnector, hexpected, hinstance, hlimit, hpurpose, hsite⟩ := h
    exact hparts hsite hpurpose hconnector hinstance hexpected (congrArg _ hlimit)
  all_goals exact absurd h (by simp)

/-- The digests of the requests are all different. -/
def CollisionFree (py : Stdlib) (requests : Set Request) : Prop :=
  Set.InjOn py.sha256 {text | ∃ request ∈ requests, request.document.dumpsAscii = text}

theorem digest_inj {py : Stdlib} {requests : Set Request} (hfree : CollisionFree py requests)
    {request request' : Request} (hmem : request ∈ requests) (hmem' : request' ∈ requests)
    (hkey : request.commandKey = request'.commandKey) (h : request.digest py = request'.digest py) :
    request = request' := by
  have htext := hfree ⟨request, hmem, rfl⟩ ⟨request', hmem', rfl⟩ h
  exact document_inj (Json.dumpsAscii_injective htext) (Prod.mk.inj hkey).2

/-- The requests of some calls. -/
def requestsOf (calls : List Call) : Set Request :=
  {request | ∃ reading currentTimestamp locked,
    .control request reading currentTimestamp locked ∈ calls}

/-! ## Runs -/

/-- The revision that a call expects of a connector and the one it leads to, if it takes effect
there. -/
def committed (k : Instance) : Call × Except Raise Answer → Option (ℤ × ℕ)
  | (.control request _ _ _, .ok (.result result)) =>
      if instanceOf request.scope request.key = k ∧ result.replayed = false then
        some (request.expectedRevision, result.status.revision)
      else none
  | (.updateRouting scope key expected _ _ _, .ok (.connector row)) =>
      if instanceOf scope key = k then some (expected, row.controlRevision) else none
  | _ => none

/-- Nobody else changes a revision. -/
def Allowed (s : Tables) : Call → Prop
  | .worker store => ∀ k, revisionOf store k = revisionOf s.store k
  | _ => True

section Runs
variable (tools : Tools)

/-- What a call does to the revisions, and what of it is counted. -/
theorem step_cases {s : Tables} {c : Call} (hallowed : Allowed s c) :
    let r := (machine tools).step s c
    (∃ k expected, Commits s r.2 k expected ∧
        committed k (c, r.1) = some (expected, revisionOf r.2.store k) ∧
        ∀ k', k' ≠ k → committed k' (c, r.1) = none) ∨
      (∀ k, revisionOf r.2.store k = revisionOf s.store k) ∧ ∀ k, committed k (c, r.1) = none := by
  dsimp only [machine, perform]
  cases c with
  | worker store => exact .inr ⟨hallowed, fun _ => rfl⟩
  | control request reading currentTimestamp locked =>
      dsimp only
      rw [run_map]
      have houtcome := control_outcome (s := s) tools request reading currentTimestamp locked
      generalize (control tools request reading currentTimestamp locked).run s = r at houtcome
      cases houtcome with
      | raised e => exact .inr ⟨fun _ => rfl, fun _ => rfl⟩
      | repeated hget hdigest => exact .inr ⟨fun _ => rfl, fun k => if_neg fun h => by cases h.2⟩
      | committed hnone hnew hcommits hrevision hkeeps hcommands =>
          refine .inl ⟨_, _, hcommits, ?_, ?_⟩
          · rw [← hrevision]
            exact if_pos ⟨rfl, hnew⟩
          · intro k' hk'
            exact if_neg fun h => hk' h.1.symm
  | updateRouting scope key expected teamRef agentTaskType now =>
      dsimp only
      rw [run_map]
      rcases routing_cases (s := s) scope key expected teamRef agentTaskType now with
        ⟨e, hrun⟩ | ⟨row, s', hrun, -, hrevision, hcommits⟩
      · rw [hrun]
        exact .inr ⟨fun _ => rfl, fun _ => rfl⟩
      · rw [hrun]
        refine .inl ⟨_, _, hcommits, ?_, ?_⟩
        · rw [← hrevision]
          exact if_pos rfl
        · intro k' hk'
          exact if_neg fun h => hk' h.symm

/-- The calls that have taken effect on a connector, in order: each was made for the revision that
the calls before it had led to. -/
def Counted (tr : List (Call × Except Raise Answer)) (s : Tables) : Prop :=
  ∀ k, tr.filterMap (committed k) =
    (List.range (revisionOf s.store k)).map fun n : ℕ => ((n : ℤ), n + 1)

theorem Counted.step {tr : List (Call × Except Raise Answer)} {s : Tables} {c : Call}
    (h : Counted tr s) (hallowed : Allowed s c) :
    Counted (tr ++ [(c, ((machine tools).step s c).1)]) ((machine tools).step s c).2 := by
  intro k
  rw [List.filterMap_append, h k]
  rcases step_cases tools hallowed with ⟨k', expected, hcommits, hself, hother⟩ | ⟨hsame, hnone⟩
  · by_cases hk : k = k'
    · subst hk
      have hnext := hcommits.revision
      rw [List.filterMap_cons, hself, hnext, List.range_succ, List.map_append, ← hcommits.expected]
      rfl
    · rw [List.filterMap_cons, hother k hk, hcommits.others k hk]
      simp
  · rw [List.filterMap_cons, hnone k, hsame k]
    simp

/-- Every command that took effect is kept. -/
def Recorded (tr : List (Call × Except Raise Answer)) (s : Tables) : Prop :=
  ∀ request reading currentTimestamp locked result,
    (.control request reading currentTimestamp locked, .ok (.result result)) ∈ tr →
    result.replayed = false → request.validate = .ok () ∧
      ∃ command, s.commands.get? request.commandKey = some command ∧
        Keeps command (request.digest tools.py) result

variable {tools}

theorem Recorded.mono {tr : List (Call × Except Raise Answer)} {s s' : Tables}
    (h : Recorded tools tr s)
    (hcommands : ∀ key command, s.commands.get? key = some command →
      s'.commands.get? key = some command) : Recorded tools tr s' := by
  intro request reading currentTimestamp locked result hmem hnew
  obtain ⟨hvalid, command, hget, hkeeps⟩ := h _ _ _ _ _ hmem hnew
  exact ⟨hvalid, command, hcommands _ _ hget, hkeeps⟩

theorem Recorded.step {tr : List (Call × Except Raise Answer)} {s : Tables} {c : Call}
    (h : Recorded tools tr s) :
    Recorded tools (tr ++ [(c, ((machine tools).step s c).1)]) ((machine tools).step s c).2 := by
  intro request reading currentTimestamp locked result hmem hnew
  rw [List.mem_append, List.mem_singleton] at hmem
  cases c with
  | worker store =>
      rcases hmem with hmem | hmem
      · exact h _ _ _ _ _ hmem hnew
      · cases (Prod.mk.inj hmem).1
  | updateRouting scope key expected teamRef agentTaskType now =>
      rcases hmem with hmem | hmem
      · refine h.mono ?_ _ _ _ _ _ hmem hnew
        intro key' command hget
        dsimp only [machine, perform]
        rw [run_map]
        rcases routing_cases (s := s) scope key expected teamRef agentTaskType now with
          ⟨e, hrun⟩ | ⟨row, s', hrun, hcommands, -⟩
        · rw [hrun]
          exact hget
        · rw [hrun]
          dsimp only
          rw [hcommands, hget]
      · cases (Prod.mk.inj hmem).1
  | control request' reading' currentTimestamp' locked' =>
      have houtcome := control_outcome (s := s) tools request' reading' currentTimestamp' locked'
      have hvalidate : ∀ result s', (control tools request' reading' currentTimestamp' locked').run
          s = (.ok result, s') → request'.validate = .ok () := fun _ _ =>
        validate_of_control reading' currentTimestamp' locked'
      dsimp only [machine, perform] at hmem ⊢
      rw [run_map] at hmem ⊢
      generalize (control tools request' reading' currentTimestamp' locked').run s = r
        at houtcome hvalidate hmem
      cases houtcome with
      | raised e =>
          rcases hmem with hmem | hmem
          · exact h _ _ _ _ _ hmem hnew
          · cases (Prod.mk.inj hmem).2
      | repeated hget hdigest =>
          rcases hmem with hmem | hmem
          · exact h _ _ _ _ _ hmem hnew
          · obtain rfl := Answer.result.inj (Except.ok.inj (Prod.mk.inj hmem).2)
            cases hnew
      | @committed result' command s' hnone hnew' hcommits hrevision hkeeps hcommands =>
          rcases hmem with hmem | hmem
          · refine h.mono ?_ _ _ _ _ _ hmem hnew
            intro key' command' hget
            have hne : key' ≠ request'.commandKey := by
              rintro rfl
              rw [hnone] at hget
              cases hget
            dsimp only
            rw [hcommands, Dict.get?_set_of_ne _ _ hne, hget]
          · obtain ⟨rfl, -, -, -⟩ := Call.control.inj (Prod.mk.inj hmem).1
            obtain rfl := Answer.result.inj (Except.ok.inj (Prod.mk.inj hmem).2)
            refine ⟨hvalidate _ _ rfl, command, ?_, hkeeps⟩
            dsimp only
            rw [hcommands, Dict.get?_set_self]

/-- A call that raises changes nothing. -/
theorem step_of_error {s : Tables} {c : Call} {e : Raise}
    (h : ((machine tools).step s c).1 = .error e) : ((machine tools).step s c).2 = s := by
  dsimp only [machine, perform] at h ⊢
  cases c with
  | worker store => cases h
  | control request reading currentTimestamp locked =>
      have houtcome := control_outcome (s := s) tools request reading currentTimestamp locked
      dsimp only at h ⊢
      rw [run_map] at h ⊢
      generalize (control tools request reading currentTimestamp locked).run s = r at houtcome h
      cases houtcome with
      | raised e => rfl
      | repeated hget hdigest => rfl
      | committed => cases h
  | updateRouting scope key expected teamRef agentTaskType now =>
      dsimp only at h ⊢
      rw [run_map] at h ⊢
      rcases routing_cases (s := s) scope key expected teamRef agentTaskType now with
        ⟨e, hrun⟩ | ⟨row, s', hrun, -⟩
      · rw [hrun]
      · rw [hrun] at h
        cases h

/-- In every run the revision of a connector counts the calls that have taken effect on it, each at
the revision it expected. A command that is repeated is answered with its outcome and changes
nothing, as does one that reuses a key, which raises, and every other call that raises. -/
theorem control_exactly_once (tools : Tools) {calls : List Call} {next : Call}
    (hallowed : (machine tools).Guarded Allowed {} calls)
    (hfree : CollisionFree tools.py (requestsOf (calls ++ [next]))) :
    let tr := (machine tools).trace {} calls
    let s := (machine tools).final {} calls
    (∀ k, tr.filterMap (committed k) =
        (List.range (revisionOf s.store k)).map fun n : ℕ => ((n : ℤ), n + 1)) ∧
      (∀ request reading currentTimestamp locked result,
        (.control request reading currentTimestamp locked, .ok (.result result)) ∈ tr →
        result.replayed = false → ∀ request' reading' currentTimestamp' locked',
        next = .control request' reading' currentTimestamp' locked' →
        request'.commandKey = request.commandKey →
          (request' = request → (machine tools).step s next =
            (.ok (.result { result with replayed := true }), s)) ∧
          (request' ≠ request → ∃ e, (machine tools).step s next = (.error e, s))) ∧
      ∀ e, ((machine tools).step s next).1 = .error e → ((machine tools).step s next).2 = s := by
  intro tr s
  have hcounted : Counted tr s := by
    have hrun := hallowed.trace_induction (P := Counted) (fun _ _ _ h hc => h.step tools hc)
      (show Counted [] {} from fun _ => rfl)
    exact hrun
  have hrecorded : Recorded tools tr s := by
    have hrun := hallowed.trace_induction (P := Recorded tools) (fun _ _ _ h _ => h.step)
      (show Recorded tools [] {} from
        fun _ _ _ _ _ hmem => absurd hmem List.not_mem_nil)
    exact hrun
  refine ⟨hcounted, ?_, fun e he => step_of_error he⟩
  rintro request reading currentTimestamp locked result hmem hnew request' reading'
    currentTimestamp' locked' rfl hkey
  obtain ⟨hvalid, command, hget, hkeeps⟩ := hrecorded _ _ _ _ _ hmem hnew
  rw [← hkey] at hget
  constructor
  · rintro rfl
    dsimp only [machine, perform]
    rw [run_map, control_repeated _ _ _ hvalid hget hkeeps]
    rfl
  · intro hne
    have hdigest : command.requestDigest ≠ request'.digest tools.py := by
      rw [hkeeps.requestDigest]
      intro hdigest
      have hcall := (Machine.exists_of_mem_trace (machine tools) hmem).1
      exact hne (digest_inj hfree ⟨_, _, _, List.mem_append_right _ (List.mem_singleton_self _)⟩
        ⟨_, _, _, List.mem_append_left _ hcall⟩ hkey hdigest.symm)
    obtain ⟨e, hrun⟩ := control_reused reading' currentTimestamp' locked' hget hdigest
    refine ⟨e, ?_⟩
    dsimp only [machine, perform]
    rw [run_map, hrun]
    rfl

end Runs

/-! ## Samples -/

/-- The storage after the mailbox has been registered. -/
def registered : Store :=
  ((Store.registerConnectorInstance acme mailbox (some newYear) 0 none none).run {}).2

def samplePause : Request := ⟨acme, mailbox, .pause, 0, "pause-0001"⟩

/-- The tools with the digest of the sample request. -/
def sampleTools : Tools where
  py := .ascii [(samplePause.document.dumpsAscii,
    "e0fc1d415450554814588c5097860ed73466da8dea817665cea8fb942d120d6f")]
  collation := codePoints
  stableUlid namespace_ parts := namespace_ ++ "-".intercalate parts

theorem december_wall : 0 ≤ (63900230400000000 : ℤ) + 0 ∧
    (63900230400000000 : ℤ) + 0 < maxWall := by decide

/-- Thirty days before the new year. -/
def december : Datetime := ⟨63900230400000000, 0, newYear.offset_lt, december_wall⟩

theorem december_ok : plus newYear (days (-30)) = .ok december := by decide

/-- The pause of the mailbox at the first revision. -/
def pauseCall : Call := .control samplePause ⟨newYear, december, december_ok⟩ newYear.instant
  fun _ => false

/-- Its outcome. -/
def samplePaused : ConnectorControlResult where
  status :=
    { instanceId := "inbox", channel := "email", status := .paused, checkpointVersion := 0
      backlog := 0, lastSuccessAt := none, safeErrorCode := none, freshness := .unknown
      revision := 1 }
  replayedCount := 0
  replayed := false

/-- The outcome that a call is answered with. -/
def resultOf : Except Raise Answer → Option ConnectorControlResult
  | .ok (.result result) => some result
  | _ => none

theorem resultOf_eq_some {answer : Except Raise Answer} {result : ConnectorControlResult}
    (h : resultOf answer = some result) : answer = .ok (.result result) := by
  cases answer with
  | error e => cases h
  | ok answer =>
      cases answer with
      | result result' => rw [Option.some.inj h]
      | connector row => cases h
      | done => cases h

/-- The mailbox is registered and paused; the pause is repeated. -/
theorem pause_repeated :
    (machine sampleTools).step
        ((machine sampleTools).final {} [.worker registered, pauseCall]) pauseCall =
      (.ok (.result { samplePaused with replayed := true }),
        (machine sampleTools).final {} [.worker registered, pauseCall]) := by
  have hallowed : (machine sampleTools).Guarded Allowed {} [.worker registered, pauseCall] := by
    refine ⟨fun k => ?_, trivial, trivial⟩
    have hinstances : ∃ row : ConnectorInstance, row.controlRevision = 0 ∧
        registered.instances = Dict.empty.set (instanceOf acme mailbox) row := ⟨_, rfl, rfl⟩
    obtain ⟨row, hrow, hset⟩ := hinstances
    unfold revisionOf
    rw [hset, Dict.get?_set]
    split
    · exact hrow
    · rfl
  have hfree : CollisionFree sampleTools.py
      (requestsOf ([.worker registered, pauseCall] ++ [pauseCall])) := by
    have hsample : ∀ request ∈ requestsOf ([.worker registered, pauseCall] ++ [pauseCall]),
        request = samplePause := by
      rintro request ⟨reading, currentTimestamp, locked, hmem⟩
      rcases List.mem_cons.mp hmem with hmem | hmem
      · cases hmem
      · have hcall : Call.control request reading currentTimestamp locked = pauseCall := by
          simpa using hmem
        exact (Call.control.inj hcall).1
    rintro _ ⟨request, hrequest, rfl⟩ _ ⟨request', hrequest', rfl⟩ _
    rw [hsample request hrequest, hsample request' hrequest']
  have hanswer : ((machine sampleTools).step ((machine sampleTools).step {}
      (.worker registered)).2 pauseCall).1 = .ok (.result samplePaused) :=
    resultOf_eq_some (by decide +kernel)
  have hmem : (pauseCall, Except.ok (Answer.result samplePaused)) ∈
      (machine sampleTools).trace {} [.worker registered, pauseCall] := by
    rw [Machine.trace_cons, Machine.trace_cons, hanswer]
    exact List.mem_cons_of_mem _ List.mem_cons_self
  exact ((control_exactly_once sampleTools hallowed hfree).2.1 _ _ _ _ _ hmem rfl _ _ _ _ rfl
    rfl).1 rfl

end EsanGbos.Observer.Control
