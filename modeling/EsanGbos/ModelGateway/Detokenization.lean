import EsanGbos.ModelGateway.Replacement
import EsanGbos.ModelGateway.Vault

/-!
# Putting the source back

A token is keyed by its kind and the case-folded text it stands for, and the mapping keeps
one spelling for it. So the vault gives the source back exactly when matches of one kind
that fold alike are spelled alike.

## Main definitions

* `detokenized` — the output with its tokens looked up.
* `token_eq_iff` — which matches share a token.
* `tokenize_restores_iff` — when the source comes back.
-/
namespace EsanGbos.ModelGateway
open Lib

/-- The name of a kind ends where a separator follows. -/
theorem Kind.name_sep_inj {k k' : Kind} {c : Char} {r r' : List Char}
    (h : k.name.toList ++ c :: r = k'.name.toList ++ c :: r') : k = k' ∧ r = r' := by
  cases k <;> cases k' <;> simp_all [Kind.name]

namespace StableTokenizer
variable (py : Stdlib) (self : StableTokenizer) (scope : Scope)

/-- What a mapping holds for the token of a match. -/
def lookedUp (mapping : Dict String String) (m : Match) : List Char :=
  ((mapping.get? (String.ofList (token py self scope m))).getD "").toList

/-- The output with each token replaced by what the mapping holds for it. -/
def detokenized (mapping : Dict String String) (text : List Char) (phrases : List (List Char)) :
    List Char :=
  Span.weave (lookedUp py self scope mapping) (Span.pieces text 0 (selected py text phrases))

/-- The digest in a token. -/
def code (m : Match) : List Char :=
  (py.hmac self.hmacKey (scopedValue py self scope m)).toList.take 24

/-- The truncated HMAC keeps the values under the tokens of a text apart. -/
def CodesApart (text : List Char) (phrases : List (List Char)) : Prop :=
  ∀ m ∈ selected py text phrases, ∀ m' ∈ selected py text phrases,
    code py self scope m = code py self scope m' →
    scopedValue py self scope m = scopedValue py self scope m'

variable {py self scope} {m m' : Match}

/-! ## Which matches share a token -/

theorem scopedValue_eq_iff : scopedValue py self scope m = scopedValue py self scope m' ↔
    m.label.kind = m'.label.kind ∧
      py.casefold m.label.plaintext = py.casefold m'.label.plaintext := by
  have hvalue : ∀ m : Match, scopedValue py self scope m =
      self.tokenizerVersion.toList ++ '\x00' :: (scope.siteId.toList ++ '\x00' ::
        (scope.purpose.toList ++ '\x00' :: (m.label.kind.name.toList ++ '\x00' ::
          py.casefold m.label.plaintext))) := by
    intro m
    simp [scopedValue, List.intercalate, List.intersperse]
  constructor
  · intro h
    rw [hvalue, hvalue] at h
    have hrest := List.append_cancel_left h
    have hrest := List.append_cancel_left (List.cons.inj hrest).2
    have hrest := List.append_cancel_left (List.cons.inj hrest).2
    exact Kind.name_sep_inj (List.cons.inj hrest).2
  · rintro ⟨hkind, hfold⟩
    rw [hvalue, hvalue, hkind, hfold]

/-- Matches share a token when they are of one kind and fold alike. -/
theorem token_eq_of_fold (hkind : m.label.kind = m'.label.kind)
    (hfold : py.casefold m.label.plaintext = py.casefold m'.label.plaintext) :
    token py self scope m = token py self scope m' := by
  rw [token, token, scopedValue_eq_iff.mpr ⟨hkind, hfold⟩, hkind]

theorem fold_of_token_eq {text : List Char} {phrases : List (List Char)}
    (hcodes : CodesApart py self scope text phrases) (hm : m ∈ selected py text phrases)
    (hm' : m' ∈ selected py text phrases)
    (h : token py self scope m = token py self scope m') :
    m.label.kind = m'.label.kind ∧
      py.casefold m.label.plaintext = py.casefold m'.label.plaintext := by
  have htail := (Kind.name_sep_inj (List.cons.inj h).2).2
  have hcode : code py self scope m = code py self scope m' := List.append_cancel_right htail
  exact scopedValue_eq_iff.mp (hcodes m hm m' hm' hcode)

/-! ## What is looked up -/

variable {text : List Char} {phrases : List (List Char)}

/-- The mapping holds, for the token of a replaced span, the text of a span with that token. -/
theorem lookedUp_spec (self : StableTokenizer) (scope : Scope) (hm : m ∈ selected py text phrases) :
    ∃ m' ∈ selected py text phrases, token py self scope m' = token py self scope m ∧
      lookedUp py self scope (replaceDetected py self scope text phrases).2 m
        = m'.label.plaintext := by
  let assigned := (selected py text phrases).reverse.map fun m =>
    (String.ofList (token py self scope m), String.ofList m.label.plaintext)
  have hassigned : (String.ofList (token py self scope m), String.ofList m.label.plaintext)
      ∈ assigned := List.mem_map.mpr ⟨m, List.mem_reverse.mpr hm, rfl⟩
  obtain ⟨value, hvalue⟩ := Option.isSome_iff_exists.mp (Dict.isSome_get?_ofList hassigned)
  obtain ⟨m', hm', heq⟩ := List.mem_map.mp (Dict.mem_of_get?_ofList hvalue)
  obtain ⟨htoken, rfl⟩ := Prod.mk.inj heq
  refine ⟨m', List.mem_reverse.mp hm', String.ofList_injective htoken, ?_⟩
  have hmapping : (replaceDetected py self scope text phrases).2 = .ofList assigned := by
    rw [replaceDetected_eq]
  rw [lookedUp, hmapping, hvalue, Option.getD_some, String.toList_ofList]

theorem detokenized_reread (mapping : Dict String String) :
    detokenized py self scope (Vault.reread mapping) text phrases
      = detokenized py self scope mapping text phrases := by
  unfold detokenized lookedUp
  simp only [Vault.get?_reread]

/-- Texts that fold alike do not run on into each other. -/
theorem eq_of_fold_append (hletters : py.FoldsLetters) {s t r r' : List Char}
    (hfold : py.casefold s = py.casefold t) (h : s ++ r = t ++ r') : s = t := by
  have hnil : ∀ u : List Char, py.casefold u = [] → u = [] := by
    intro u hu
    cases u with
    | nil => rfl
    | cons c u => exact absurd (List.append_eq_nil_iff.mp hu).1 (hletters c)
  rcases List.append_eq_append_iff.mp h with ⟨u, rfl, -⟩ | ⟨u, rfl, -⟩
  · rw [Stdlib.casefold, Stdlib.casefold, List.flatMap_append, List.self_eq_append_right] at hfold
    rw [hnil u hfold, List.append_nil]
  · rw [Stdlib.casefold, Stdlib.casefold, List.flatMap_append, List.append_right_eq_self] at hfold
    rw [hnil u hfold, List.append_nil]

/-- The source comes back exactly when replaced spans of one kind that fold alike are spelled
alike. -/
theorem detokenized_eq_iff (hletters : py.FoldsLetters)
    (hcodes : CodesApart py self scope text phrases) :
    detokenized py self scope (replaceDetected py self scope text phrases).2 text phrases = text ↔
      ∀ m ∈ selected py text phrases, ∀ m' ∈ selected py text phrases,
        m.label.kind = m'.label.kind →
        py.casefold m.label.plaintext = py.casefold m'.label.plaintext →
        m.label.plaintext = m'.label.plaintext := by
  have hslice : ∀ m ∈ selected py text phrases, Span.slice text m = m.label.plaintext := by
    intro m hm
    exact (candidate_spec py (mem_candidates_of_selected py hm)).2.2.symm
  have hrun : ∀ m ∈ selected py text phrases, ∀ r r',
      lookedUp py self scope (replaceDetected py self scope text phrases).2 m ++ r
        = Span.slice text m ++ r' →
      lookedUp py self scope (replaceDetected py self scope text phrases).2 m
        = Span.slice text m := by
    intro m hm r r' h
    obtain ⟨m', hm', htoken, hlooked⟩ := lookedUp_spec self scope hm
    rw [hslice m hm, hlooked] at h ⊢
    exact eq_of_fold_append hletters (fold_of_token_eq hcodes hm' hm htoken).2 h
  have hiff := Span.weave_eq_drop_iff (selected_increasing py text phrases) hrun
  rw [List.drop_zero] at hiff
  rw [detokenized, hiff]
  constructor
  · intro h m hm m' hm' hkind hfold
    have htoken : token py self scope m = token py self scope m' := token_eq_of_fold hkind hfold
    have hsame : lookedUp py self scope (replaceDetected py self scope text phrases).2 m
        = lookedUp py self scope (replaceDetected py self scope text phrases).2 m' := by
      rw [lookedUp, lookedUp, htoken]
    rw [← hslice m hm, ← hslice m' hm', ← h m hm, ← h m' hm', hsame]
  · intro h m hm
    obtain ⟨m', hm', htoken, hlooked⟩ := lookedUp_spec self scope hm
    obtain ⟨hkind, hfold⟩ := fold_of_token_eq hcodes hm' hm htoken
    rw [hslice m hm, hlooked, h m' hm' m hm hkind hfold]

/-! ## A call and a load -/

/-- After a call that returns the vault answers its receipt until it expires, and what it
answers gives the source back exactly when chosen matches of one kind that fold alike are
spelled alike. -/
theorem tokenize_restores_iff (py : Stdlib) (hiso : py.ReadsIsoformat) (hhex : py.HexDigests)
    (hletters : py.FoldsLetters) (self : StableTokenizer) (cipher : AuthenticatedCipher)
    (hcipher : cipher.Opens) (r : Request) (vault vault' : Vault) (result : TokenizationResult)
    (h : (tokenize py self cipher r).run vault = (.ok result, vault'))
    (hcodes : CodesApart py self r.scope r.text r.phrases) (clock : Datetime)
    (h0 : 0 ≤ clock.instant) (hlt : clock.instant < result.receipt.expiresAt.instant) :
    ∃ mapping,
      vault'.load py cipher (some clock) result.receipt.mappingReference r.scope = .ok mapping ∧
      result.text = Span.weave (token py self r.scope)
        (Span.pieces r.text 0 (selected py r.text r.phrases)) ∧
      (detokenized py self r.scope mapping r.text r.phrases = r.text ↔
        ∀ m m', Span.Chosen Detected.rank (candidates py r.text r.phrases) m →
          Span.Chosen Detected.rank (candidates py r.text r.phrases) m' →
          m.label.kind = m'.label.kind →
          py.casefold m.label.plaintext = py.casefold m'.label.plaintext →
          m.label.plaintext = m'.label.plaintext) := by
  have hreturned := tokenize_ok h
  refine ⟨_, hreturned.scope ▸ hreturned.load hcipher hiso hhex h0 hlt, ?_, ?_⟩
  · rw [hreturned.text, replaceDetected_eq]
  · rw [detokenized_reread, mappingOf, detokenized_eq_iff hletters hcodes]
    constructor
    · intro hspelled m m' hm hm'
      exact hspelled m ((mem_selected_iff py).mpr hm) m' ((mem_selected_iff py).mpr hm')
    · intro hspelled m hm m' hm'
      exact hspelled m m' ((mem_selected_iff py).mp hm) ((mem_selected_iff py).mp hm')

theorem tokenize_acme : ∃ result vault',
    (tokenize acme sample .plain acmeRequest).run {} = (.ok result, vault') ∧
      (newYearAt 43200000000).instant < result.receipt.expiresAt.instant := by
  have hrun : ((tokenize acme sample .plain acmeRequest).run {}).1.toOption.any
      (fun result => (newYearAt 43200000000).instant < result.receipt.expiresAt.instant) = true := by
    decide +kernel
  generalize (tokenize acme sample .plain acmeRequest).run {} = answer at hrun
  obtain ⟨_ | result, vault'⟩ := answer
  · cases hrun
  · exact ⟨result, vault', rfl, of_decide_eq_true hrun⟩

theorem tokenize_restores_acme : ∃ result vault' mapping,
    (tokenize acme sample .plain acmeRequest).run {} = (.ok result, vault') ∧
    vault'.load acme .plain (some (newYearAt 43200000000)) result.receipt.mappingReference acmeRequest.scope
      = .ok mapping := by
  obtain ⟨result, vault', hrun, hlt⟩ := tokenize_acme
  have hcodes : CodesApart acme sample acmeRequest.scope acmeRequest.text acmeRequest.phrases := by
    intro m hm m' hm' _
    have hfold : ∀ m ∈ selected acme acmeRequest.text acmeRequest.phrases,
        m.label.kind = .entity ∧ acme.casefold m.label.plaintext = "acme".toList := by
      decide +kernel
    rw [scopedValue_eq_iff, (hfold m hm).1, (hfold m' hm').1, (hfold m hm).2, (hfold m' hm').2]
    exact ⟨rfl, rfl⟩
  obtain ⟨mapping, hload, -⟩ := tokenize_restores_iff acme acme_readsIsoformat acme_hexDigests
    (fun c => List.cons_ne_nil c.toLower []) sample .plain
    AuthenticatedCipher.plain_opens acmeRequest {} vault' result hrun hcodes
    (newYearAt 43200000000) (by decide) hlt
  exact ⟨result, vault', mapping, hrun, hload⟩

/-- Both spellings come back as the first. -/
theorem detokenized_acme : ∃ result vault' mapping,
    (tokenize acme sample .plain acmeRequest).run {} = (.ok result, vault') ∧
    vault'.load acme .plain (some (newYearAt 43200000000)) result.receipt.mappingReference result.receipt.scope
      = .ok mapping ∧
    detokenized acme sample acmeRequest.scope mapping acmeRequest.text acmeRequest.phrases
      = "ACME ACME".toList ∧ "ACME ACME".toList ≠ acmeRequest.text := by
  obtain ⟨result, vault', hrun, hlt⟩ := tokenize_acme
  refine ⟨result, vault', _, hrun, (tokenize_ok hrun).load AuthenticatedCipher.plain_opens
    acme_readsIsoformat acme_hexDigests (by decide) hlt, ?_, by decide⟩
  rw [detokenized_reread]
  decide +kernel

end StableTokenizer
end EsanGbos.ModelGateway
