import EsanGbos.Observer.Scheduler

/-!
# Cursors under competing pollers

The provider's messages have places in an order that only its cursors name: `reached c d`
says that the message `d` lies at or before the cursor `c`. As long as every batch holds the
messages between its two cursors, the stored cursor never passes a message that has not been
accepted durably, however runs interleave, whichever calls fail and whoever holds the lease.

## Main definitions

* `Polling.Covered` — every message at or before the stored cursor has been accepted.
* `Polling.Advances` — a new cursor comes with the next version.
* `Polling.run_covered` — both, over every run.
-/
namespace EsanGbos.Observer.Polling
open Lib

variable {ι : Type} (scope : TenantScope) (key : ConnectorKey)
  (reached : Option String → String → Prop)

/-- The interleavings of runs and operator commands. -/
def machine [DecidableEq ι] : Machine (Pool PollingCall PollingCall.Answer Raise PollRunResult ι Polling)
    (Event ι (DurablePollingScheduler key × ℤ) PollingChoice OperatorCommand) Unit :=
  Pool.machine DurablePollingScheduler.program (fun _ => exec scope key) (command scope key)

def Covered (s : Polling) : Prop :=
  ∀ row, s.view scope key = some row → ∀ d, reached row.cursor d → d ∈ s.accepted

/-- Cursor and version stay, or the cursor changes and the version grows by one. -/
def Advances (s t : Polling) : Prop :=
  (∀ row, s.view scope key = some row → ∃ row', t.view scope key = some row' ∧
      ((row'.cursor = row.cursor ∧ row'.version = row.version) ∨
        (row'.cursor ≠ row.cursor ∧ row'.version = row.version + 1)))

/-- A successful batch holds exactly the messages between its cursors. -/
def Exact (x : PollingChoice) (c : PollingCall) : Prop :=
  ∀ cursor limit batch, c = .poll cursor limit → x.polled = .ok batch →
    batch.disposition = .ok → batch.expectedCursor = cursor →
      ∀ d, d ∈ batch.deliveries.map RawDelivery.deliveryId ↔
        reached batch.candidateCursor d ∧ ¬reached cursor d

/-- Every poll of the run is exact. -/
def ExactPolls (s : Pool PollingCall PollingCall.Answer Raise PollRunResult ι Polling) :
    Event ι (DurablePollingScheduler key × ℤ) PollingChoice OperatorCommand → Prop
  | .step i x => ∀ c next, s.runs i = some (.call c next) → Exact reached x c
  | _ => True

/-! ## What a run relies on -/

/-- What others leave of a cursor that was seen at a version. -/
def Later (s t : Polling) : Prop :=
  (∀ d ∈ s.accepted, d ∈ t.accepted) ∧
    ∀ row, s.view scope key = some row → ∃ row', t.view scope key = some row' ∧
      row.version ≤ row'.version ∧ (row'.version = row.version → row'.cursor = row.cursor)

/-- The cursor that was loaded is still the cursor at that version. -/
def Loaded (cursor : Option String) (version : ℤ) (s : Polling) : Prop :=
  ∃ row, s.view scope key = some row ∧ version ≤ row.version ∧
    (row.version = version → row.cursor = cursor)

variable {scope key reached}

theorem Later.refl (s : Polling) : Later scope key s s :=
  ⟨fun _ h => h, fun row h => ⟨row, h, le_rfl, fun _ => rfl⟩⟩

theorem Later.trans {s t u : Polling} (h : Later scope key s t) (h' : Later scope key t u) :
    Later scope key s u := by
  refine ⟨fun d hd => h'.1 d (h.1 d hd), fun row hrow => ?_⟩
  obtain ⟨row₁, hrow₁, hle, hcursor⟩ := h.2 row hrow
  obtain ⟨row₂, hrow₂, hle', hcursor'⟩ := h'.2 row₁ hrow₁
  refine ⟨row₂, hrow₂, hle.trans hle', fun heq => ?_⟩
  have heq₁ : row₁.version = row.version := by omega
  rw [hcursor' (by omega), hcursor heq₁]

theorem Loaded.later {cursor : Option String} {version : ℤ} {s t : Polling}
    (h : Loaded scope key cursor version s) (hlater : Later scope key s t) :
    Loaded scope key cursor version t := by
  obtain ⟨row, hrow, hle, hcursor⟩ := h
  obtain ⟨row', hrow', hle', hcursor'⟩ := hlater.2 row hrow
  refine ⟨row', hrow', hle.trans hle', fun heq => ?_⟩
  rw [hcursor' (by omega), hcursor (by omega)]

variable (scope key reached) in
/-- Calls keep the checkpoint covered and versions growing. -/
def contract : Contract PollingCall ι PollingChoice Polling where
  rely _ s t := (Covered scope key reached s → Covered scope key reached t) ∧ Later scope key s t
  guar _ s t := (Covered scope key reached s → Covered scope key reached t) ∧
    Later scope key s t ∧ Advances scope key s t
  allowed _ x c _ := Exact reached x c
  rely_refl _ s := ⟨id, Later.refl s⟩
  rely_trans _ _ _ _ h h' := ⟨h'.1 ∘ h.1, h.2.trans h'.2⟩

variable (scope key reached) in
abbrev Holds {α : Type} (i : ι) (Q : Except Raise α → Polling → Prop) (p : PollingRun α)
    (s : Polling) : Prop :=
  p.Holds (fun _ => exec scope key) (contract scope key reached) i Q s

/-- Neither the cursor nor its version is touched. -/
theorem guar_of_kept (i : ι) {s t : Polling} (haccepted : ∀ d ∈ s.accepted, d ∈ t.accepted)
    (hview : ∀ row, s.view scope key = some row → ∃ row', t.view scope key = some row' ∧
      row'.cursor = row.cursor ∧ row'.version = row.version)
    (hnone : s.view scope key = none → t.view scope key = none) :
    (contract scope key reached).guar i s t := by
  refine ⟨fun hcovered row' hrow' d hd => ?_, ⟨haccepted, fun row hrow => ?_⟩, fun row hrow => ?_⟩
  · cases hrow : s.view scope key with
    | none => rw [hnone hrow] at hrow'; cases hrow'
    | some row =>
        obtain ⟨row₁, hrow₁, hcursor, -⟩ := hview row hrow
        rw [hrow'] at hrow₁
        obtain rfl := Option.some.inj hrow₁
        exact haccepted d (hcovered row hrow d (hcursor ▸ hd))
  · obtain ⟨row', hrow', hcursor, hversion⟩ := hview row hrow
    exact ⟨row', hrow', hversion.ge, fun _ => hcursor⟩
  · obtain ⟨row', hrow', hcursor, hversion⟩ := hview row hrow
    exact ⟨row', hrow', .inl ⟨hcursor, hversion⟩⟩

/-- Every call but an advance of the checkpoint. -/
theorem guar_exec {i : ι} {c : PollingCall} (hc : ∀ v u n, c ≠ .advanceCheckpoint v u n)
    (x : PollingChoice) (s : Polling) :
    (contract scope key reached).guar i s (exec scope key x c s).2 := by
  cases exec_effect scope key x c s with
  | keep _ _ _ hview haccepted =>
      refine guar_of_kept i (by simp [haccepted]) (fun row hrow => ?_) (fun hnone => ?_)
      · exact ⟨row, hview.trans hrow, rfl, rfl⟩
      · exact hview.trans hnone
  | accept delivery _ _ hview haccepted =>
      refine guar_of_kept i (fun d hd => ?_) (fun row hrow => ?_) (fun hnone => ?_)
      · rw [haccepted]
        exact List.mem_cons_of_mem _ hd
      · exact ⟨row, hview.trans hrow, rfl, rfl⟩
      · exact hview.trans hnone
  | advance v u n => exact absurd rfl (hc v u n)
  | record status _ _ _ _ row hrow hview haccepted =>
      refine guar_of_kept i (by simp [haccepted]) (fun row' hrow' => ?_) (fun hnone => ?_)
      · rw [hrow] at hrow'
        obtain rfl := Option.some.inj hrow'
        exact ⟨_, hview, rfl, rfl⟩
      · rw [hrow] at hnone
        cases hnone

/-- An advance over a batch that has been accepted. -/
theorem guar_advance {i : ι} {cursor candidate : Option String} {version : ℤ} {s : Polling}
    (hloaded : Loaded scope key cursor version s) (hne : candidate ≠ cursor)
    (haccepted : ∀ d, reached candidate d → ¬reached cursor d → d ∈ s.accepted) (now : Datetime)
    (x : PollingChoice) :
    (contract scope key reached).guar i s
      (exec scope key x (.advanceCheckpoint version candidate now) s).2 := by
  cases exec_effect scope key x (.advanceCheckpoint version candidate now) s with
  | keep _ _ _ hview haccepted =>
      refine guar_of_kept i (by simp [haccepted]) (fun row hrow => ?_) (fun hnone => ?_)
      · exact ⟨row, hview.trans hrow, rfl, rfl⟩
      · exact hview.trans hnone
  | advance _ _ _ _ _ row hrow hversion hview hsame =>
      -- The versions agree, so the stored cursor is the one the batch was polled from.
      have hcursor : row.cursor = cursor := by
        obtain ⟨row', hrow', -, hcursor⟩ := hloaded
        rw [hrow] at hrow'
        obtain rfl := Option.some.inj hrow'
        exact hcursor hversion
      refine ⟨fun hcovered row' hrow' d hd => ?_, ⟨by simp [hsame], fun row₁ hrow₁ => ?_⟩,
        fun row₁ hrow₁ => ?_⟩
      · rw [hview] at hrow'
        obtain rfl := Option.some.inj hrow'
        rw [hsame]
        by_cases hbefore : reached cursor d
        · exact hcovered row hrow d (hcursor ▸ hbefore)
        · exact haccepted d hd hbefore
      · rw [hrow] at hrow₁
        obtain rfl := Option.some.inj hrow₁
        exact ⟨_, hview, by dsimp only; omega, by dsimp only; omega⟩
      · rw [hrow] at hrow₁
        obtain rfl := Option.some.inj hrow₁
        exact ⟨_, hview, .inr ⟨by rw [hcursor]; exact hne, by dsimp only; omega⟩⟩

/-! ## Runs -/

/-- A call that is no advance, and what it leaves of a fact that lasts. -/
theorem holds_call {i : ι} {c : PollingCall} (hc : ∀ v u n, c ≠ .advanceCheckpoint v u n)
    {P : Polling → Prop} (hP : ∀ t u, P t → Later scope key t u → P u) {s : Polling} (hs : P s) :
    (Prog.invoke c : PollingRun c.Answer).Holds (fun _ => exec scope key)
      (contract scope key reached) i (fun _ t => P t) s := by
  apply Prog.Holds.invoke
  intro t ht x _
  have hguar : (contract scope key reached).guar i t (exec scope key x c t).2 := guar_exec hc x t
  exact ⟨hguar, hP _ _ (hP _ _ hs ht.2) hguar.2.1⟩

section Parts
open DurablePollingScheduler
variable {i : ι} {s : Polling}

/-- A health report that ends a run. -/
theorem holds_report (status : ConnectorStatus) (errorCode : Option String) (now : Datetime)
    (result : PollRunResult) :
    Holds scope key reached i (fun _ _ => True)
      (PollingState.updateHealth status errorCode now >>= fun _ => pure result) s := by
  apply Prog.Holds.bind
  · exact holds_call (P := fun _ => True) (by intro _ _ _ h; cases h) (fun _ _ h _ => h) trivial
  · intro _ _ _
    trivial
  · intro _ _ _
    trivial

/-- The loop accepts every delivery, or fails. -/
theorem holds_acceptAll {cursor : Option String} {version : ℤ} (before : List String)
    (deliveries : List RawDelivery) (hloaded : Loaded scope key cursor version s)
    (hbefore : ∀ d ∈ before, d ∈ s.accepted) :
    Holds scope key reached i
      (fun r t => Loaded scope key cursor version t ∧
        ∀ a, r = .ok a → ∀ d ∈ before ++ deliveries.map RawDelivery.deliveryId, d ∈ t.accepted)
      (acceptAll deliveries) s := by
  induction deliveries generalizing s before with
  | nil => exact ⟨hloaded, fun _ _ d hd => hbefore d (by simpa using hd)⟩
  | cons delivery deliveries ih =>
      apply Prog.Holds.bind (Q := fun r t => Loaded scope key cursor version t ∧
        ∀ a, r = .ok a → ∀ d ∈ before ++ [delivery.deliveryId], d ∈ t.accepted)
      · apply Prog.Holds.invoke
        intro t ht x _
        have hguar : (contract scope key reached).guar i t
            (exec scope key x (.acceptDelivery delivery) t).2 :=
          guar_exec (by intro _ _ _ h; cases h) x t
        refine ⟨hguar, (hloaded.later ht.2).later hguar.2.1, ?_⟩
        intro a hok d hd
        rw [exec_ok hok]
        rcases List.mem_append.mp hd with hd | hd
        · exact List.mem_cons_of_mem _ (ht.2.1 d (hbefore d hd))
        · rw [List.mem_singleton.mp hd]
          exact List.mem_cons_self
      · rintro a t ⟨hloaded, haccepted⟩
        have hrest := ih (before ++ [delivery.deliveryId]) hloaded (haccepted a rfl)
        refine hrest.imp fun r u hu => ⟨hu.1, fun a ha d hd => hu.2 a ha d ?_⟩
        simpa using hd
      · rintro e t ⟨hloaded, -⟩
        exact ⟨hloaded, fun a ha => by cases ha⟩

theorem holds_runBatch {cursor : Option String} {version : ℤ} (now : Datetime) {batch : PollBatch}
    (hloaded : Loaded scope key cursor version s)
    (hbatch : batch.disposition = .ok → batch.expectedCursor = cursor →
      ∀ d, d ∈ batch.deliveries.map RawDelivery.deliveryId ↔
        reached batch.candidateCursor d ∧ ¬reached cursor d) :
    Holds scope key reached i (fun _ _ => True) (runBatch cursor version now batch) s := by
  unfold runBatch
  split
  · exact holds_report _ _ _ _
  next hcursor =>
    split
    · exact holds_report _ _ _ _
    next hok =>
      have hbatch := hbatch (not_not.mp hok) (not_not.mp hcursor)
      apply Prog.Holds.bind (Q := fun r t => Loaded scope key cursor version t ∧
        ∀ a, r = .ok (.ok a) → ∀ delivery ∈ batch.deliveries, delivery.deliveryId ∈ t.accepted)
      · refine (holds_acceptAll [] batch.deliveries hloaded (by simp)).attempt ?_
        rintro r t ⟨hloaded, haccepted⟩
        refine ⟨hloaded, fun a ha delivery hmem => haccepted a (Except.ok.inj ha) _ ?_⟩
        exact List.mem_map_of_mem hmem
      · rintro accepted t ⟨hloaded, haccepted⟩
        cases accepted with
        | error e => exact holds_report _ _ _ _
        | ok a =>
            have haccepted := haccepted a rfl
            dsimp only
            split
            · exact holds_report _ _ _ _
            next hnonempty =>
              have hne : batch.candidateCursor ≠ cursor := by
                intro heq
                obtain ⟨delivery, hmem⟩ := List.exists_mem_of_ne_nil _ hnonempty
                have hplace := (hbatch delivery.deliveryId).mp (List.mem_map_of_mem hmem)
                exact hplace.2 (heq ▸ hplace.1)
              apply Prog.Holds.bind (Q := fun _ _ => True)
              · refine Prog.Holds.attempt (Q := fun _ _ => True) ?_ fun _ _ _ => trivial
                apply Prog.Holds.invoke
                intro u hu x _
                refine ⟨guar_advance (hloaded.later hu.2) hne ?_ now x, trivial⟩
                intro d hd hnot
                obtain ⟨delivery, hmem, rfl⟩ := List.mem_map.mp ((hbatch d).mpr ⟨hd, hnot⟩)
                exact hu.2.1 _ (haccepted delivery hmem)
              · intro advanced u _
                cases advanced <;> exact holds_report _ _ _ _
              · intro _ _ _
                trivial
      · intro _ _ _
        trivial

theorem holds_underLease (limit : ℤ) (now : Datetime) :
    Holds scope key reached i (fun _ _ => True) (underLease limit now) s := by
  apply Prog.Holds.bind (Q := fun r t => ∀ a, r = .ok a → Loaded scope key a.1 a.2.1 t)
  · apply Prog.Holds.invoke
    intro t _ x _
    refine ⟨guar_exec (by intro _ _ _ h; cases h) x t, fun a hok => ?_⟩
    have hperform := exec_ok hok
    rw [hperform] at hok ⊢
    obtain ⟨status, hview, -⟩ := view_of_loadCheckpoint hok
    exact ⟨_, hview, le_rfl, fun _ => rfl⟩
  · rintro ⟨cursor, version, status⟩ t ht
    have hloaded : Loaded scope key cursor version t := ht _ rfl
    dsimp only
    split
    · trivial
    next =>
      apply Prog.Holds.bind (Q := fun r u => Loaded scope key cursor version u ∧
        ∀ batch, r = .ok (.ok batch) → batch.disposition = .ok → batch.expectedCursor = cursor →
          ∀ d, d ∈ batch.deliveries.map RawDelivery.deliveryId ↔
            reached batch.candidateCursor d ∧ ¬reached cursor d)
      · refine Prog.Holds.attempt (Q := fun r u => Loaded scope key cursor version u ∧
          ∀ batch : PollBatch, r = .ok batch → batch.disposition = .ok →
            batch.expectedCursor = cursor → ∀ d, d ∈ batch.deliveries.map RawDelivery.deliveryId ↔
              reached batch.candidateCursor d ∧ ¬reached cursor d) ?_ ?_
        · apply Prog.Holds.invoke
          intro u hu x hx
          have hguar : (contract scope key reached).guar i u
              (exec scope key x (.poll cursor limit) u).2 :=
            guar_exec (by intro _ _ _ h; cases h) x u
          refine ⟨hguar, (hloaded.later hu.2).later hguar.2.1, fun batch hok => ?_⟩
          rw [exec_ok hok] at hok
          exact hx cursor limit batch rfl hok
        · exact fun r u hu => ⟨hu.1, fun batch hok => hu.2 batch (Except.ok.inj hok)⟩
      · rintro polled u ⟨hloaded, hexact⟩
        cases polled with
        | error e => exact holds_report _ _ _ _
        | ok batch => exact holds_runBatch now hloaded (hexact batch rfl)
      · intro _ _ _
        trivial
  · intro _ _ _
    trivial

end Parts

/-- A run keeps the checkpoint covered. -/
theorem holds_runOnce (run : DurablePollingScheduler key × ℤ) (i : ι) (s : Polling) :
    Holds scope key reached i (fun _ _ => True) (DurablePollingScheduler.program run) s := by
  have hcall : ∀ {c : PollingCall} {s : Polling}, (∀ v u n, c ≠ .advanceCheckpoint v u n) →
      (Prog.invoke c : PollingRun c.Answer).Holds (fun _ => exec scope key)
        (contract scope key reached) i (fun _ _ => True) s := by
    intro c s hc
    exact holds_call (P := fun _ => True) hc (fun _ _ h _ => h) trivial
  obtain ⟨scheduler, limit⟩ := run
  unfold DurablePollingScheduler.program DurablePollingScheduler.runOnce
  split
  · trivial
  apply (hcall (c := .loadCheckpoint) (by intro _ _ _ h; cases h)).bind
  · rintro ⟨cursor, version, status⟩ t _
    dsimp only
    split
    · trivial
    next =>
      apply (hcall (c := .clock) (by intro _ _ _ h; cases h)).bind
      · intro clocked u _
        cases clocked with
        | none => trivial
        | some now =>
            apply Prog.Holds.bind (Q := fun _ _ => True)
            · exact (hcall (c := .acquire scheduler.workerId now scheduler.leaseSeconds)
                (by intro _ _ _ h; cases h)).attempt fun _ _ _ => trivial
            · intro acquired v _
              cases acquired with
              | error e => exact holds_report _ _ _ _
              | ok _ =>
                  apply Prog.Holds.bind (Q := fun _ _ => True)
                  · exact (holds_underLease limit now).attempt fun _ _ _ => trivial
                  · intro result w _
                    apply (hcall (c := .release scheduler.workerId now)
                      (by intro _ _ _ h; cases h)).bind
                    · intro _ _ _
                      trivial
                    · intro _ _ _
                      trivial
                  · intro _ _ _
                    trivial
            · intro _ _ _
              trivial
      · intro _ _ _
        trivial
  · intro _ _ _
    trivial

/-! ## Pools -/

/-- No run has started yet. -/
def initial (start : Polling) : Pool PollingCall PollingCall.Answer Raise PollRunResult ι Polling :=
  ⟨start, fun _ => none⟩

variable (scope key reached) in
theorem guar_command (i : ι) (c : OperatorCommand) (s : Polling) :
    (contract scope key reached).guar i s (command scope key c s) := by
  obtain ⟨haccepted, hview | ⟨row, hrow, hview⟩⟩ := view_command scope key c s
  · refine guar_of_kept i (by simp [haccepted]) (fun row hrow => ?_) (fun hnone => ?_)
    · exact ⟨row, hview.trans hrow, rfl, rfl⟩
    · exact hview.trans hnone
  · refine guar_of_kept i (by simp [haccepted]) (fun row' hrow' => ?_) (fun hnone => ?_)
    · rw [hrow] at hrow'
      obtain rfl := Option.some.inj hrow'
      exact ⟨_, hview, rfl, rfl⟩
    · rw [hrow] at hnone
      cases hnone

section Pools
variable [DecidableEq ι]
  {s : Pool PollingCall PollingCall.Answer Raise PollRunResult ι Polling}
  {e : Event ι (DurablePollingScheduler key × ℤ) PollingChoice OperatorCommand}

theorem allHold_step
    (h : Pool.AllHold (fun _ => exec scope key) (contract scope key reached) s)
    (he : ExactPolls key reached s e) :
    Pool.AllHold (fun _ => exec scope key) (contract scope key reached)
      ((machine scope key).step s e).2 := by
  refine h.step (B := fun _ _ => True) (fun p i s => holds_runOnce p i s) ?_ ?_ ?_
  · intro i j s t _ hguar
    exact ⟨hguar.1, hguar.2.1⟩
  · intro i c s _
    have hguar := guar_command scope key reached i c s
    exact ⟨hguar.1, hguar.2.1⟩
  · cases e with
    | start i p => trivial
    | step i x => exact fun c next hrun => he c next hrun
    | other c => trivial

/-- What every step keeps of the checkpoint. -/
theorem guar_step (h : Pool.AllHold (fun _ => exec scope key) (contract scope key reached) s)
    (he : ExactPolls key reached s e) :
    (Covered scope key reached s.shared →
        Covered scope key reached ((machine scope key).step s e).2.shared) ∧
      Advances scope key s.shared ((machine scope key).step s e).2.shared := by
  have hsame : Advances scope key s.shared s.shared :=
    fun row hrow => ⟨row, hrow, .inl ⟨rfl, rfl⟩⟩
  cases e with
  | start i p =>
      exact Pool.shared_start (P := fun t => (Covered scope key reached s.shared →
        Covered scope key reached t) ∧ Advances scope key s.shared t) i p ⟨id, hsame⟩
  | step i x =>
      refine Pool.shared_step (P := fun t => (Covered scope key reached s.shared →
        Covered scope key reached t) ∧ Advances scope key s.shared t) i x ⟨id, hsame⟩ ?_
      intro c next hrun
      have hguar := h.guar hrun (he c next hrun)
      exact ⟨hguar.1, hguar.2.2⟩
  | other c =>
      have hguar := guar_command scope key reached () c s.shared
      exact ⟨hguar.1, hguar.2.2⟩

variable (scope) in
/-- With exact polls no run of the pool skips a message: what lies at or before the stored
cursor has been accepted, and every new cursor is stored under the next version. -/
theorem run_covered {start : Polling}
    {events : List (Event ι (DurablePollingScheduler key × ℤ) PollingChoice OperatorCommand)}
    (hstart : Covered scope key reached start)
    (hpolls : (machine scope key).Guarded (ExactPolls key reached) (initial start) events) :
    Covered scope key reached ((machine scope key).final (initial start) events).shared ∧
      (machine scope key).Guarded (fun s e =>
        Advances scope key s.shared ((machine scope key).step s e).2.shared)
        (initial start) events := by
  have hinitial : Pool.AllHold (fun _ => exec scope key) (contract scope key reached)
      (initial start : Pool PollingCall PollingCall.Answer Raise PollRunResult ι Polling) := by
    intro i p hp
    cases hp
  constructor
  · have hrun := hpolls.invariant (P := fun s =>
        Pool.AllHold (fun _ => exec scope key) (contract scope key reached) s ∧
          Covered scope key reached s.shared)
      (fun s e hs he => ⟨allHold_step hs.1 he, (guar_step hs.1 he).1 hs.2⟩) ⟨hinitial, hstart⟩
    exact hrun.2
  · exact hpolls.imp (fun s e hs he => allHold_step hs he)
      (fun s e hs he => (guar_step hs he).2) hinitial

end Pools

/-! ## Two runs over one message -/

/-- One message, which lies before the cursor `1`. -/
def reachedOne (cursor : Option String) (d : String) : Prop := cursor = some "1" ∧ d = "m1"

theorem isIdentifier_m1 : isIdentifier 512 "m1" = true := by decide
theorem isIdentifier_rfc822 : isIdentifier 255 "message/rfc822" = true := by decide

def message : RawDelivery :=
  ⟨"m1", [104, 105], "message/rfc822", newYear, isIdentifier_m1, isIdentifier_rfc822⟩

def firstBatch : PollBatch :=
  ⟨.ok, none, some "1", [message], none, ok_error_none, by decide, ok_error_some⟩

/-- The first run polls the message while a second one is refused the lease. -/
def pollOnce : List (Event Bool (DurablePollingScheduler mailbox × ℤ) PollingChoice
    OperatorCommand) :=
  [.start false (poller "a" isIdentifier_a), .start true (poller "b" isIdentifier_b)] ++
    List.replicate 4 (.step false ⟨none, .ok firstBatch, some newYear⟩) ++
    List.replicate 4 (.step true ⟨none, .ok firstBatch, some newYear⟩) ++
    List.replicate 4 (.step false ⟨none, .ok firstBatch, some newYear⟩)

theorem run_covered_pollOnce :
    Covered acme mailbox reachedOne
        ((machine acme mailbox).final (initial registered) pollOnce).shared ∧
      (machine acme mailbox).Guarded (fun s e =>
        Advances acme mailbox s.shared ((machine acme mailbox).step s e).2.shared)
        (initial registered) pollOnce := by
  have hcovered : Covered acme mailbox reachedOne registered := by
    intro row hrow d hd
    have hview : registered.view acme mailbox = some ⟨.healthy, none, 0⟩ := by decide +kernel
    rw [hview] at hrow
    obtain rfl := Option.some.inj hrow
    cases hd.1
  refine run_covered acme hcovered ?_
  refine Machine.Guarded.of_forall (fun e he s => ?_) _
  cases e with
  | start i p => trivial
  | other c => trivial
  | step i x =>
      rintro c next - cursor limit batch - hpolled - rfl d
      have hx : x.polled = .ok firstBatch := by
        simp only [pollOnce, List.mem_append, List.mem_replicate, List.mem_cons,
          List.not_mem_nil, or_false, reduceCtorEq, false_or] at he
        rcases he with (⟨-, he⟩ | ⟨-, he⟩) | ⟨-, he⟩ <;> rw [(Event.step.inj he).2]
      obtain rfl := Except.ok.inj (hx.symm.trans hpolled)
      simp [firstBatch, message, reachedOne]

/-- The message is accepted and the checkpoint moves to its next version. -/
example :
    let s := ((machine acme mailbox).final (initial registered) pollOnce).shared
    s.view acme mailbox = some ⟨.healthy, some "1", 1⟩ ∧ s.accepted = ["m1"] := by decide +kernel

end EsanGbos.Observer.Polling
