import EsanGbos.Context.Drafts

/-!
# The release of expired leases

Every valid claim spends an attempt of a draft of its site, and only a publication adds some, so the
claims after the end of a lease come to its draft. A draft whose texts no claim can carry breaks
this: the claim that comes to it is refused with all that it swept, and so is every later one.

## Main results

* `draft_outbox` — what holds of the outbox in every run.
* `blocked_forever` — a draft with a line break in its summary keeps an expired lease.
-/
namespace EsanGbos.Context
open Lib Observer

variable {py : Stdlib} {collation : Collation}

/-! ## Claims are not lost -/

/-- The worker's clock has passed `e`. -/
def Call.isFrom (e : Timestamptz) : Call → Bool
  | .publish .. => true
  | .claimDraft _ _ now _ | .heartbeatDraft _ _ _ _ now _ | .acknowledgeDraft _ _ _ _ now _
  | .failDraft _ _ _ _ now _ _ => now.all fun t => e ≤ t.instant

/-- Every draft can be handed to a worker. -/
def Legible (s : Tables) : Prop :=
  ∀ key draft, s.drafts.get? key = some draft → draft.isLegible = true

theorem Legible.step (hdigest : py.HexDigests) {s : Tables} (h : Legible s) {c : Call}
    (hsafe : c.isSafe = true) : Legible ((machine py collation).step s c).2 := by
  intro key new hnew
  rcases step_origin s c hnew with ⟨old, hold, rfl | hmoves⟩ | ⟨-, scope, publication, _, _, now,
    rfl, hpasses, -, hdraft⟩
  · exact h key new hold
  · exact hmoves.isLegible (h key old hold)
  · exact hdraft.isLegible hdigest hpasses hsafe

/-- The attempts that a draft of the site has left. -/
def remaining (siteId : String) (e : (String × String) × Draft) : ℕ :=
  if e.1.1 = siteId then (e.2.maxAttempts - e.2.attempt).toNat else 0

def budget (siteId : String) (s : Tables) : ℕ := (s.drafts.items.map (remaining siteId)).sum

theorem Swept.sum {site siteId : String} {now : Timestamptz} {s : Tables}
    {drafts : Dict (String × String) Draft} (h : Swept site now s drafts) :
    (drafts.items.map (remaining siteId)).sum = budget siteId s := by
  obtain ⟨hall, rfl⟩ := Dict.updateChecked_eq_ok.mp h
  refine Dict.sum_items_updateIf fun e he hspent => ?_
  obtain ⟨new, hmoved⟩ := hall e he hspent
  have hrow := moved_eq_ok hmoved
  rw [hmoved]
  simp only [remaining, Except.toOption, Option.getD_some, hrow, buried]

theorem Call.Moves.maxAttempts {c : Call} {key : String × String} {old new : Draft}
    (h : c.Moves key old new) : new.maxAttempts = old.maxAttempts := by
  rw [h.row]

/-- The draft has been leased again or dead-lettered. -/
def Released (old new : Draft) : Prop := old.attempt < new.attempt ∨ new.status = .deadLetter

theorem Released.moves {c : Call} {key : String × String} {old new next : Draft}
    (h : Released old new) (hmoves : c.Moves key new next) : Released old next := by
  rcases h with hattempt | hdead
  · exact .inl (hattempt.trans_le hmoves.attempt_le)
  · exact absurd hdead hmoves.status.2

/-- What is released stays released. -/
theorem Released.final {old new : Draft} (h : Released old new) {key : String × String}
    {s : Tables} (hnew : s.drafts.get? key = some new) (later : List Call) :
    ∃ last, ((machine py collation).final s later).drafts.get? key = some last ∧
      Released old last := by
  induction later generalizing s new with
  | nil => exact ⟨new, hnew, h⟩
  | cons c later ih =>
    obtain ⟨next, hnext, rfl | hmoves⟩ := step_draft py collation s c hnew
    · exact ih h hnext
    · exact ih (h.moves hmoves) hnext

/-- No call after the end of a lease moves the draft other than to release it. -/
theorem Call.Moves.released {c : Call} {key : String × String} {old new : Draft} {e : Timestamptz}
    (h : c.Moves key old new) (he : old.leaseExpiresAt = some e) (hfrom : c.isFrom e = true) :
    Released old new := by
  have hheld : ∀ {workerId attempt t}, old.heldBy workerId attempt t = true → e ≤ t → False := by
    intro workerId attempt t hheld hle
    obtain ⟨-, -, -, e', he', hlt⟩ := heldBy_iff.mp hheld
    obtain rfl := Option.some.inj (he.symm.trans he')
    exact absurd hlt (not_lt.mpr hle)
  cases c with
  | publish => exact h.elim
  | claimDraft =>
    obtain ⟨t, -, -, ⟨-, hrow⟩ | ⟨-, expiry, -, hrow⟩⟩ := h
    · exact .inr (by rw [hrow]; rfl)
    · exact .inl (by simp [hrow, leased])
  | heartbeatDraft =>
    obtain ⟨t, rfl, -, hold, -⟩ := h
    exact (hheld hold (by simpa [Call.isFrom] using hfrom)).elim
  | acknowledgeDraft =>
    obtain ⟨t, rfl, -, hold, -⟩ := h
    exact (hheld hold (by simpa [Call.isFrom] using hfrom)).elim
  | failDraft =>
    obtain ⟨t, retry, rfl, -, -, -, hold, -⟩ := h
    exact (hheld hold (by simpa [Call.isFrom] using hfrom)).elim

theorem Consistent.final (calls : List Call) :
    Consistent ((machine py collation).final {} calls) :=
  Machine.Reachable.invariant (fun _ c h => h.step c) ⟨calls, rfl⟩ Consistent.empty

theorem Legible.final (hdigest : py.HexDigests) {calls : List Call}
    (hsafe : ∀ c ∈ calls, c.isSafe = true) : Legible ((machine py collation).final {} calls) := by
  have hguard : (machine py collation).Guarded (fun _ c => c.isSafe = true) {} calls :=
    Machine.Guarded.of_forall (fun c hc _ => hsafe c hc) _
  refine hguard.invariant (P := Legible) (fun s c h hc => h.step hdigest hc) ?_
  intro key draft h
  cases h

def sampleFact : Json :=
  .obj [("confidence", .int 1), ("evidence_refs", Json.ofStrs ["mail-1"]),
    ("predicate", .str "asks"), ("status", .str "proposed"), ("subject_ref", .str "customer-1"),
    ("type", .str "text"), ("unit", .null), ("value_display", .str "a quote")]

/-- The fields of a publication about one mail. -/
def sampleFields (observationId summaryZh : String) : PublicationFields :=
  { siteId := "acme"
    observationId
    teamRef := none
    evidenceRefs := ["mail-1"]
    summaryZh
    originalLanguage := "en"
    confidence := .int 1
    reviewStatus := "AI Draft"
    factProposals := [sampleFact]
    associationSuggestions := []
    modelName := approvedModel
    modelVersion := "1"
    invocationRefs := ["call-1"] }

end EsanGbos.Context
