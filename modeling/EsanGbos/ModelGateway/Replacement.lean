import EsanGbos.ModelGateway.Tokenization

/-!
# What the replacement covers

The selected matches are those a sweep over the candidates chooses, so the output is the
text with these spans replaced, and the mapping what they assign.

## Main definitions

* `candidate_spec` — what a candidate is.
* `mem_selected_iff` — selection, without the order of visit.
* `replaceDetected_eq` — the output and the mapping, from the selected matches.
-/
namespace EsanGbos.ModelGateway
open Lib

variable (py : Stdlib)

/-- The order of the sources in the list of candidates. -/
def Detected.rank (d : Detected) : ℕ :=
  match d.kind with
  | .email => 0
  | .phone => 1
  | .entity => 2

theorem Detected.kind_of_rank {d d' : Detected} (h : d.rank = d'.rank) : d.kind = d'.kind := by
  obtain ⟨_, kind⟩ := d
  obtain ⟨_, kind'⟩ := d'
  cases kind <;> cases kind' <;> first | rfl | exact absurd h (by simp [rank])

/-! ## Candidates -/

theorem mem_matchesOf {pattern : Regex Char} {kind : Kind} {text : List Char} {m : Match} :
    m ∈ matchesOf pattern kind text ↔ (m.start, m.stop) ∈ pattern.finditer text ∧
      m.label = ⟨Span.slice text m, kind⟩ := by
  constructor
  · intro h
    obtain ⟨⟨c, d⟩, hcd, rfl⟩ := List.mem_map.mp h
    exact ⟨hcd, rfl⟩
  · rintro ⟨hmem, hlabel⟩
    refine List.mem_map.mpr ⟨_, hmem, ?_⟩
    cases m
    simp only at hlabel
    rw [hlabel]
    rfl

theorem mem_distinctPhrases {phrases : List (List Char)} {w : List Char} :
    w ∈ distinctPhrases phrases ↔ w ∈ phrases ∧ w ≠ [] := by
  simp [distinctPhrases]

theorem consumes_emailPattern : (emailPattern py).Consumes :=
  Regex.consumes_seqs (r := .cls (· == '@')) (by simp) (Regex.consumes_cls _)

theorem consumes_phonePattern : (phonePattern py).Consumes :=
  Regex.consumes_seqs (r := .rep (.cls py.isDigit) 3 (some 4)) (by simp)
    (Regex.consumes_rep (by decide))

/-- A candidate is a non-empty span of the text with the text it covers. -/
theorem candidate_spec {text : List Char} {phrases : List (List Char)} {m : Match}
    (h : m ∈ candidates py text phrases) :
    m.start < m.stop ∧ m.stop ≤ text.length ∧ m.label.plaintext = Span.slice text m := by
  have hspec : ∀ {pattern : Regex Char} {kind : Kind}, pattern.Consumes →
      m ∈ matchesOf pattern kind text →
      m.start < m.stop ∧ m.stop ≤ text.length ∧ m.label.plaintext = Span.slice text m := by
    intro pattern kind hpattern hm
    obtain ⟨hmem, hlabel⟩ := mem_matchesOf.mp hm
    exact ⟨Regex.lt_of_mem_finditer hpattern hmem, (Regex.le_of_mem_finditer hmem).2,
      by rw [hlabel]⟩
  rcases List.mem_append.mp h with h | h
  · rcases List.mem_append.mp h with h | h
    · exact hspec (consumes_emailPattern py) h
    · exact hspec (consumes_phonePattern py) h
  · obtain ⟨w, hw, h⟩ := List.mem_flatMap.mp h
    exact hspec (Regex.consumes_lit (mem_distinctPhrases.mp hw).2) h

/-- The matches of phrases are candidates. -/
theorem mem_candidates_of_phrase {text : List Char} {phrases : List (List Char)} {w : List Char}
    (hw : w ∈ phrases) (hne : w ≠ []) {c d : ℕ}
    (h : (c, d) ∈ (phrasePattern py w).finditer text) :
    ⟨c, d, (text.take d).drop c, .entity⟩ ∈ candidates py text phrases := by
  refine List.mem_append_right _ (List.mem_flatMap.mpr ⟨w, mem_distinctPhrases.mpr ⟨hw, hne⟩, ?_⟩)
  exact List.mem_map.mpr ⟨(c, d), h, rfl⟩

/-- Candidates are listed by source. -/
theorem candidates_pairwise_rank (text : List Char) (phrases : List (List Char)) :
    (candidates py text phrases).Pairwise fun a b => a.label.rank ≤ b.label.rank := by
  have hrank : ∀ {pattern : Regex Char} {kind : Kind}, ∀ m ∈ matchesOf pattern kind text,
      m.label.rank = Detected.rank ⟨[], kind⟩ := by
    intro _ _ _ hm
    rw [(mem_matchesOf.mp hm).2]
    rfl
  have hentity : ∀ m ∈ (distinctPhrases phrases).flatMap fun phrase =>
      matchesOf (phrasePattern py phrase) .entity text, m.label.rank = 2 := by
    intro m hm
    obtain ⟨w, -, hm⟩ := List.mem_flatMap.mp hm
    exact hrank m hm
  have hconst : ∀ {l : List Match} {n : ℕ}, (∀ m ∈ l, m.label.rank = n) →
      l.Pairwise fun a b => a.label.rank ≤ b.label.rank := by
    intro l n hl
    exact List.Pairwise.imp_of_mem (fun ha hb _ => by rw [hl _ ha, hl _ hb])
      (List.pairwise_of_forall (R := fun _ _ => True) fun _ _ => trivial)
  rw [candidates, List.pairwise_append, List.pairwise_append]
  refine ⟨⟨hconst hrank, hconst hrank, fun a ha b hb => ?_⟩, hconst hentity, fun a ha b hb => ?_⟩
  · rw [hrank a ha, hrank b hb]; decide
  · rw [hentity b hb]
    rcases List.mem_append.mp ha with ha | ha <;> rw [hrank a ha] <;> decide

/-! ## The selected matches -/

/-- The candidates in the order of their visit. -/
theorem visit_pairwise (text : List Char) (phrases : List (List Char)) :
    ((candidates py text phrases).insertionSort Span.LeftmostLongest).Pairwise
      (Span.Before Detected.rank) :=
  Span.pairwise_insertionSort (candidates_pairwise_rank py text phrases)

theorem visit_lt {text : List Char} {phrases : List (List Char)} :
    ∀ m ∈ (candidates py text phrases).insertionSort Span.LeftmostLongest, m.start < m.stop :=
  fun _ hm => (candidate_spec py ((List.mem_insertionSort _).mp hm)).1

theorem selected_eq_sweep (text : List Char) (phrases : List (List Char)) :
    selected py text phrases
      = Span.sweep 0 ((candidates py text phrases).insertionSort Span.LeftmostLongest) :=
  Span.select_eq_sweep (visit_pairwise py text phrases) (visit_lt py) (by simp) (by simp)
    (.inl rfl)

theorem selected_increasing (text : List Char) (phrases : List (List Char)) :
    Span.Increasing 0 (selected py text phrases) := by
  rw [selected_eq_sweep]
  exact Span.sweep_increasing (visit_lt py) 0

theorem mem_candidates_of_selected {text : List Char} {phrases : List (List Char)} {m : Match}
    (h : m ∈ selected py text phrases) : m ∈ candidates py text phrases := by
  rw [selected_eq_sweep] at h
  exact (List.mem_insertionSort _).mp (Span.sweep_subset 0 h)

/-- The selected matches are the chosen candidates. -/
theorem mem_selected_iff {text : List Char} {phrases : List (List Char)} {m : Match} :
    m ∈ selected py text phrases ↔ Span.Chosen Detected.rank (candidates py text phrases) m := by
  have hmem : ∀ c, c ∈ (candidates py text phrases).insertionSort Span.LeftmostLongest ↔
      c ∈ candidates py text phrases := fun c => List.mem_insertionSort _
  rw [selected_eq_sweep]
  constructor
  · intro h
    obtain ⟨x, hx, hm⟩ := Span.first_of_mem_sweep (visit_pairwise py text phrases) (visit_lt py) h
    exact ⟨x, hx.congr hmem, hm.congr hmem⟩
  · rintro ⟨x, hx, hm⟩
    obtain ⟨m', hm', hbefore, hbefore'⟩ := Span.mem_sweep_of_first (visit_pairwise py text phrases)
      (visit_lt py) (hx.congr fun c => (hmem c).symm) (hm.congr fun c => (hmem c).symm)
    have hspec := candidate_spec py hm.mem
    have hspec' := candidate_spec py ((hmem m').mp (Span.sweep_subset 0 hm'))
    obtain ⟨hstart, hstop, hrank⟩ := Span.Before.antisymm hbefore hbefore'
    suffices m = m' from this ▸ hm'
    have hplaintext : m.label.plaintext = m'.label.plaintext := by
      rw [hspec.2.2, hspec'.2.2, Span.slice, Span.slice, hstart, hstop]
    have hkind : m.label.kind = m'.label.kind := Detected.kind_of_rank hrank
    obtain ⟨start, stop, plaintext, kind⟩ := m
    obtain ⟨start', stop', plaintext', kind'⟩ := m'
    simp only at hstart hstop hplaintext hkind
    rw [hstart, hstop, hplaintext, hkind]

/-! ## The output -/

variable (self : StableTokenizer) (scope : Scope)

theorem foldl_replaceOne (ms : List Match) (acc : List Char × Dict String String) :
    ms.foldl (StableTokenizer.replaceOne py self scope) acc =
      (ms.foldl (Span.splice (StableTokenizer.token py self scope)) acc.1,
        (ms.map fun m => (String.ofList (StableTokenizer.token py self scope m),
          String.ofList m.label.plaintext)).foldl (fun d e => d.set e.1 e.2) acc.2) := by
  induction ms generalizing acc with
  | nil => rfl
  | cons m ms ih => exact ih _

/-- The output is the text with the selected matches replaced, the mapping what they
assign from the last to the first. -/
theorem replaceDetected_eq (text : List Char) (phrases : List (List Char)) :
    StableTokenizer.replaceDetected py self scope text phrases =
      (Span.weave (StableTokenizer.token py self scope)
        (Span.pieces text 0 (selected py text phrases)),
      .ofList ((selected py text phrases).reverse.map fun m =>
        (String.ofList (StableTokenizer.token py self scope m),
          String.ofList m.label.plaintext))) := by
  have hinc := selected_increasing py text phrases
  have hspec : ∀ m ∈ selected py text phrases, m.start < m.stop ∧ m.stop ≤ text.length :=
    fun m hm => by
      obtain ⟨hlt, hle, -⟩ := candidate_spec py (mem_candidates_of_selected py hm)
      exact ⟨hlt, hle⟩
  rw [StableTokenizer.replaceDetected,
    Span.insertionSort_reverse hinc fun m hm => (hspec m hm).1, foldl_replaceOne,
    Span.foldl_splice _ hinc fun m hm => (hspec m hm).2, List.take_zero, List.nil_append,
    Dict.ofList]

end EsanGbos.ModelGateway
