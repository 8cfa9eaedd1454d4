import EsanGbos.AgentRuntime.Repository

/-!
# The life of a task

What a task is for: it waits, a worker takes it for one attempt, and the attempt ends
in a delivery, a retry or the dead letter. `Change` is that state diagram, on task
records and the events they leave; the repository's operations are compared with it.

## Main definitions

* `Change` — one transition of a task, with the events it records.
* `WellFormed` — what every stored task satisfies; `Change.wellFormed` keeps it.
-/
namespace EsanGbos.AgentRuntime
open Lib

namespace TaskStatus

/-- No transition leaves these states. -/
def isTerminal (st : TaskStatus) : Bool := !st.isWaiting && !st.isActive

@[simp] theorem isActive_leased : TaskStatus.leased.isActive = true := rfl
@[simp] theorem isActive_running : TaskStatus.running.isActive = true := rfl
@[simp] theorem isActive_recheck : TaskStatus.recheck.isActive = false := rfl
@[simp] theorem isActive_queued : TaskStatus.queued.isActive = false := rfl
@[simp] theorem isActive_succeeded : TaskStatus.succeeded.isActive = false := rfl
@[simp] theorem isActive_deadLetter : TaskStatus.deadLetter.isActive = false := rfl
@[simp] theorem isWaiting_leased : TaskStatus.leased.isWaiting = false := rfl
@[simp] theorem isWaiting_running : TaskStatus.running.isWaiting = false := rfl
@[simp] theorem isWaiting_recheck : TaskStatus.recheck.isWaiting = true := rfl
@[simp] theorem isWaiting_queued : TaskStatus.queued.isWaiting = true := rfl
@[simp] theorem isWaiting_succeeded : TaskStatus.succeeded.isWaiting = false := rfl
@[simp] theorem isWaiting_deadLetter : TaskStatus.deadLetter.isWaiting = false := rfl

theorem isActive_iff {st : TaskStatus} : st.isActive = true ↔ st = leased ∨ st = running := by
  cases st <;> simp [isActive]

theorem isWaiting_iff {st : TaskStatus} : st.isWaiting = true ↔ st = queued ∨ st = recheck := by
  cases st <;> simp [isWaiting]

theorem ne_deadLetter {st : TaskStatus} (h : st.isTerminal = false) : st ≠ deadLetter := by
  rintro rfl; exact absurd h (by decide)

end TaskStatus

/-- One transition of a task and the events it records. -/
inductive Change (t : AgentTaskMetadata) : AgentTaskMetadata → List EventType → Prop where
  | lease (workerId : String) (now expiry : Datetime) (ht : t.status.isTerminal = false)
      (hlt : t.attempt < t.maxAttempts) :
      Change t (Repository.leased t .leased workerId now expiry) [.leased]
  | execute (workerId : String) (now expiry : Datetime) (ht : t.status.isTerminal = false)
      (hlt : t.attempt < t.maxAttempts) :
      Change t (Repository.leased t .running workerId now expiry) [.leased, .running]
  | start (now : Datetime) (ht : t.status.isActive = true) :
      Change t { t with status := .running, updatedAt := now } [.running]
  | renew (now expiry : Datetime) (ht : t.status.isActive = true) :
      Change t { t with leaseExpiresAt := some expiry, updatedAt := now } []
  | succeed (outputArtifactRefs : List String) (now : Datetime) (ht : t.status.isActive = true) :
      Change t (Repository.succeeded t outputArtifactRefs now) [.succeeded]
  | recheck (now retryAt : Datetime) (classification : FailureClassification)
      (ht : t.status.isActive = true) (hlt : t.attempt < t.maxAttempts) :
      Change t (Repository.rescheduled t retryAt classification now) [.recheckScheduled]
  | bury (now : Datetime) (classification : FailureClassification)
      (ht : t.status.isActive = true) :
      Change t (Repository.buried t classification now) [.deadLettered]

/-- Attempts stay within bounds, a lease is held exactly in the active states, and a
waiting task has an attempt left. -/
structure WellFormed (t : AgentTaskMetadata) : Prop where
  attempt_nonneg : 0 ≤ t.attempt
  attempt_le : t.attempt ≤ t.maxAttempts
  owner_iff : t.leaseOwner.isSome = t.status.isActive
  expiry_iff : t.leaseExpiresAt.isSome = t.status.isActive
  waiting_lt : t.status.isWaiting = true → t.attempt < t.maxAttempts

namespace Change
variable {t t' : AgentTaskMetadata} {kinds : List EventType}

theorem wellFormed (h : Change t t' kinds) (ht : WellFormed t) : WellFormed t' := by
  obtain ⟨h0, hle, howner, hexpiry, hlt⟩ := ht
  cases h with
  | lease w now e _ hlt' | execute w now e _ hlt' =>
      exact ⟨by simp only [Repository.leased]; omega, by simp only [Repository.leased]; omega,
        rfl, rfl, by simp [Repository.leased]⟩
  | start now hact => exact ⟨h0, hle, by simp [howner, hact], by simp [hexpiry, hact], by simp⟩
  | renew now e hact =>
      exact ⟨h0, hle, howner, by simp [hact], fun hw => hlt hw⟩
  | succeed refs now hact => exact ⟨h0, hle, rfl, rfl, by simp [Repository.succeeded]⟩
  | recheck now r c hact hlt' => exact ⟨h0, hle, rfl, rfl, fun _ => hlt'⟩
  | bury now c hact => exact ⟨h0, hle, rfl, rfl, by simp [Repository.buried]⟩

/-- A transition keeps what identifies the task. -/
theorem key_eq (h : Change t t' kinds) : t'.key = t.key := by cases h <;> rfl

theorem idempotencyKey_eq (h : Change t t' kinds) :
    t'.siteId = t.siteId ∧ t'.idempotencyKey = t.idempotencyKey := by cases h <;> exact ⟨rfl, rfl⟩

theorem subject_eq (h : Change t t' kinds) :
    t'.siteId = t.siteId ∧ t'.taskId = t.taskId ∧ t'.subjectRef = t.subjectRef ∧
      t'.subjectType = t.subjectType := by cases h <;> exact ⟨rfl, rfl, rfl, rfl⟩

/-- The events named `leased` count the attempts. -/
theorem attempt_eq (h : Change t t' kinds) :
    t'.attempt = t.attempt + (kinds.count EventType.leased : ℕ) := by
  cases h <;> simp [Repository.leased, Repository.succeeded,
      Repository.rescheduled, Repository.buried]

theorem not_terminal (h : Change t t' kinds) : t.status.isTerminal = false := by
  cases h <;> first | assumption | simp_all [TaskStatus.isTerminal]

theorem deadLetter_iff (h : Change t t' kinds) :
    t'.status = .deadLetter ↔ EventType.deadLettered ∈ kinds := by
  cases h with
  | renew now e hact =>
      have : t.status ≠ .deadLetter := by intro hd; simp [hd] at hact
      simpa using this
  | _ => simp [Repository.leased, Repository.succeeded,
      Repository.rescheduled, Repository.buried]

end Change
end EsanGbos.AgentRuntime
