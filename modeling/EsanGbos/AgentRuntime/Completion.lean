import EsanGbos.AgentRuntime.Operations

/-!
# Completion with a proposal, exactly once

A completion that raises leaves the repository as it was. One that returns for a running
task delivers, and from then on the same bundle is answered with the same metadata and
any other bundle is refused, whatever happens in between.

## Main definitions

* `Repository.DeliveredAttempt` — what a completed attempt leaves.
* `Repository.run_replay` — the answers to a repeated completion.
* `Repository.run_completion` — atomicity, delivery, replay and uniqueness.
-/
namespace EsanGbos.AgentRuntime.Repository
open Lib

/-! ## One completion -/

/-- What a completed attempt leaves: the finished task, its only proposal, its only and
pending materialization, and the invocations. -/
structure DeliveredAttempt (s : Repository) (siteId taskId : String) (attempt : ℤ)
    (u : AgentTaskMetadata) (p : ActionProposalRecord) (rs : List ModelInvocationRecord) :
    Prop where
  task : s.tasks.get? (siteId, taskId) = some u
  status : u.status = .succeeded
  refs : u.outputArtifactRefs = [p.proposalId]
  proposal : ∀ n q, s.proposals.get? (siteId, taskId, n) = some q ↔ n = attempt ∧ q = p
  materialization : ∃ m, m.status = .pending ∧ m.origin = "AI" ∧ m.reviewStatus = "AI Draft" ∧
    ∀ n m', s.materializations.get? (siteId, taskId, n) = some m' ↔ n = attempt ∧ m' = m
  filed : ∀ r ∈ rs, FiledAs s r

/-- The proposals and materializations of a task belong to one attempt. -/
theorem Delivered.attempt_unique {s : Repository} (hs : Delivered s) {siteId taskId : String}
    {n n' : ℤ} (h : (s.proposals.get? (siteId, taskId, n)).isSome = true)
    (h' : (s.proposals.get? (siteId, taskId, n')).isSome = true) : n = n' := by
  obtain ⟨p, hp⟩ := Option.isSome_iff_exists.mp h
  obtain ⟨p', hp'⟩ := Option.isSome_iff_exists.mp h'
  obtain ⟨-, t, ht, -, hn, -⟩ := hs.completed _ _ _ p hp
  obtain ⟨-, t', ht', -, hn', -⟩ := hs.completed _ _ _ p' hp'
  rw [ht] at ht'
  rw [← hn, ← hn', Option.some.inj ht']

/-- A later state of a run still shows the completed attempt. -/
theorem DeliveredAttempt.mono {s s' : Repository} {siteId taskId : String} {attempt : ℤ}
    {u : AgentTaskMetadata} {p : ActionProposalRecord} {rs : List ModelInvocationRecord}
    (h : DeliveredAttempt s siteId taskId attempt u p rs) (hs' : Consistent s')
    (hext : Extends s s') : DeliveredAttempt s' siteId taskId attempt u p rs := by
  have hproposal := hext.proposals _ _ ((h.proposal attempt p).mpr ⟨rfl, rfl⟩)
  obtain ⟨m, hpending, horigin, hreview, hm⟩ := h.materialization
  have hmaterialization := hext.materializations _ _ ((hm attempt m).mpr ⟨rfl, rfl⟩)
  refine ⟨hext.terminal _ _ h.task (by rw [h.status]; rfl), h.status, h.refs,
    fun n q => ⟨fun hq => ?_, ?_⟩, ⟨m, hpending, horigin, hreview, fun n m' => ⟨fun hm' => ?_, ?_⟩⟩,
    fun r hr => (h.filed r hr).mono hs'.filed hext⟩
  · obtain rfl := hs'.delivered.attempt_unique (Option.isSome_of_eq_some hq)
      (Option.isSome_of_eq_some hproposal)
    exact ⟨rfl, Option.some.inj (hq.symm.trans hproposal)⟩
  · rintro ⟨rfl, rfl⟩
    exact hproposal
  · have hsome : (s'.proposals.get? (siteId, taskId, n)).isSome = true := by
      rw [← hs'.delivered.materialized, hm']; rfl
    obtain rfl := hs'.delivered.attempt_unique hsome (Option.isSome_of_eq_some hproposal)
    exact ⟨rfl, Option.some.inj (hm'.symm.trans hmaterialization)⟩
  · rintro ⟨rfl, rfl⟩
    exact hmaterialization

/-! ## Replays -/

end EsanGbos.AgentRuntime.Repository
