import EsanGbos.ModelGateway.Replacement
import EsanGbos.ModelGateway.Vault

/-!
# What the tokenizer leaves in the text

The scan for a phrase skips the occurrences inside one it has found. Where greedy
selection then drops the found one for an earlier match, the skipped occurrence stays in
the output, unless another match covers it.

## Main definitions

* `plainSegments` — what the output keeps between the tokens.
* `Covered` — no phrase is left, and none of its occurrences.
* `Stranded` — an occurrence lost between scan and selection.
* `tokenize_covered_iff` — the output is covered exactly when none is stranded.
-/
namespace EsanGbos.ModelGateway
open Lib

variable (py : Stdlib)

/-- The output without its tokens. -/
def plainSegments (text : List Char) (phrases : List (List Char)) : List (List Char) :=
  Span.gaps (Span.pieces text 0 (selected py text phrases))

/-- No plain segment contains a phrase, and each occurrence of a phrase overlaps a replaced
span. The empty phrase does not count. -/
structure Covered (text : List Char) (phrases : List (List Char)) : Prop where
  segments : ∀ w ∈ phrases, w ≠ [] → ∀ segment ∈ plainSegments py text phrases,
    ∀ i, Regex.occursAt py.sameLetter w segment i = false
  overlapped : ∀ w ∈ phrases, w ≠ [] → ∀ a, Regex.occursAt py.sameLetter w text a = true →
    ∃ m ∈ selected py text phrases, m.start < a + w.length ∧ a < m.stop

/-- The phrase occurs at `a`; the scan for it found an occurrence at `c` that reaches past
`a`; the leftmost longest matches end at `x` between the two, and no match starts from there
to the end of the occurrence. -/
structure Stranded (text : List Char) (phrases : List (List Char)) (w : List Char)
    (a c x : ℕ) : Prop where
  phrase : w ∈ phrases
  occurs : Regex.occursAt py.sameLetter w text a = true
  found : (c, c + w.length) ∈ (phrasePattern py w).finditer text
  reaches : a < c + w.length
  swept : Span.Swept Detected.rank (candidates py text phrases) 0 x
  between : c < x ∧ x ≤ a
  free : ∀ m ∈ candidates py text phrases, m.start < x ∨ a + w.length ≤ m.start

variable {py} {text : List Char} {phrases : List (List Char)} {w : List Char}

/-- The stranded occurrences are those that no replaced span meets. -/
theorem exists_stranded_iff {a : ℕ} :
    (∃ c x, Stranded py text phrases w a c x) ↔ w ∈ phrases ∧ w ≠ [] ∧
      Regex.occursAt py.sameLetter w text a = true ∧
      ∀ m ∈ selected py text phrases, m.stop ≤ a ∨ a + w.length ≤ m.start := by
  have hmem : ∀ m, m ∈ (candidates py text phrases).insertionSort Span.LeftmostLongest ↔
      m ∈ candidates py text phrases := fun m => List.mem_insertionSort _
  have hgap : ∀ (_ : w ≠ []), (∀ m ∈ selected py text phrases,
      m.stop ≤ a ∨ a + w.length ≤ m.start) ↔
      ∃ x ≤ a, Span.Swept Detected.rank (candidates py text phrases) 0 x ∧
        ∀ m ∈ candidates py text phrases, m.start < x ∨ a + w.length ≤ m.start := by
    intro hw
    have hpos := List.length_pos_iff.mpr hw
    rw [selected_eq_sweep, Span.exists_gap_iff (visit_pairwise py text phrases) (visit_lt py)
      (Nat.zero_le a) (by omega)]
    refine exists_congr fun x => and_congr_right fun _ => and_congr ⟨?_, ?_⟩ ?_
    · exact fun hx => hx.congr hmem
    · exact fun hx => hx.congr fun m => (hmem m).symm
    · exact forall_congr' fun m => imp_congr (hmem m) Iff.rfl
  constructor
  · rintro ⟨c, x, h⟩
    have hw : w ≠ [] := by
      intro hnil
      have hreaches := h.reaches
      have hbetween := h.between
      rw [hnil, List.length_nil] at hreaches
      omega
    exact ⟨h.phrase, hw, h.occurs, (hgap hw).mpr ⟨x, h.between.2, h.swept, h.free⟩⟩
  · rintro ⟨hphrase, hw, hoccurs, hclear⟩
    obtain ⟨x, hxa, hswept, hfree⟩ := (hgap hw).mp hclear
    obtain ⟨c, hfound, hca, hac⟩ := Regex.finditer_lit_covers hw hoccurs
    refine ⟨c, x, hphrase, hoccurs, hfound, hac, hswept, ⟨?_, hxa⟩, hfree⟩
    -- the found occurrence is a match, and it starts before the end of this one
    have hpos := List.length_pos_iff.mpr hw
    rcases hfree _ (mem_candidates_of_phrase py hphrase hw hfound) with hlt | hle
    · exact hlt
    · dsimp only at hle
      omega

/-- A phrase is left in a plain segment exactly when one of its occurrences is stranded. -/
theorem exists_segment_iff (hphrase : w ∈ phrases) (hw : w ≠ []) :
    (∃ segment ∈ plainSegments py text phrases, ∃ i,
      Regex.occursAt py.sameLetter w segment i = true) ↔
      ∃ a c x, Stranded py text phrases w a c x := by
  rw [plainSegments, Span.exists_gap_occursAt_iff hw (selected_increasing py text phrases)]
  refine exists_congr fun a => ?_
  rw [exists_stranded_iff]
  constructor
  · rintro ⟨-, hoccurs, hclear⟩
    exact ⟨hphrase, hw, hoccurs, hclear⟩
  · rintro ⟨-, -, hoccurs, hclear⟩
    exact ⟨Nat.zero_le a, hoccurs, hclear⟩

theorem covered_iff : Covered py text phrases ↔ ∀ w a c x, ¬Stranded py text phrases w a c x := by
  constructor
  · intro h w a c x hstranded
    obtain ⟨hphrase, hw, hoccurs, hclear⟩ := exists_stranded_iff.mp ⟨c, x, hstranded⟩
    obtain ⟨m, hm, hstart, hstop⟩ := h.overlapped w hphrase hw a hoccurs
    have := hclear m hm
    omega
  · intro h
    refine ⟨fun w hphrase hw segment hsegment i => ?_, fun w hphrase hw a hoccurs => ?_⟩
    · by_contra hoccurs
      obtain ⟨a, c, x, hstranded⟩ := (exists_segment_iff hphrase hw).mp
        ⟨segment, hsegment, i, Bool.not_eq_false _ ▸ hoccurs⟩
      exact h w a c x hstranded
    · by_contra hnone
      have hclear : ∀ m ∈ selected py text phrases, m.stop ≤ a ∨ a + w.length ≤ m.start := by
        intro m hm
        by_contra hoverlap
        exact hnone ⟨m, hm, by omega⟩
      obtain ⟨c, x, hstranded⟩ := exists_stranded_iff.mpr ⟨hphrase, hw, hoccurs, hclear⟩
      exact h w a c x hstranded

namespace StableTokenizer

/-- A call that returns gives the text with the selected matches replaced, and its plain
segments are clear of the phrases exactly when no occurrence is stranded. -/
theorem tokenize_covered_iff (py : Stdlib) (self : StableTokenizer) (cipher : AuthenticatedCipher)
    (r : Request) :
    (∀ vault vault' result,
      (tokenize py self cipher r).run vault = (.ok result, vault') →
      result.text = Span.weave (token py self r.scope)
        (Span.pieces r.text 0 (selected py r.text r.phrases))) ∧
    (Covered py r.text r.phrases ↔ ∀ w a c x, ¬Stranded py r.text r.phrases w a c x) := by
  refine ⟨fun vault vault' result h => ?_, covered_iff⟩
  rw [(tokenize_ok h).text, replaceDetected_eq]

/-- In `zababa` the scan for `aba` finds the first of two occurrences, which `za` drops. -/
noncomputable def zababa : Stdlib := .sample
  [(42, "b2ab165e7422d466c70fbbcc731629cea2ff7f5e1f4383c24b2066ce79a13f00"),
    (160, "01e343d3c35fee7aa6716bdb11faaef1b597fa0d25ed31dd64e58db169873b9a"),
    (180, "5b15a4400dc545bf7efd3ae5601ed9cc02d537b3b990307ffcaaba61b6fbda04"),
    (108, "737029cc0976999b1c2d5313b3c655ee4106212fa694979d09bb5788ec558f70")]
  [(38, "9f768e94d53a9f006e3eb3aaa46926891e0f453ed4853259269f119ef9819fea")]

theorem tokenize_zababa : ∃ result vault',
    (tokenize zababa sample .plain (sampleRequest "zababa" ["za", "aba"])).run {}
      = (.ok result, vault') ∧
    result.text = "<ENTITY_9f768e94d53a9f006e3eb3aa>baba".toList ∧
    ¬Covered zababa "zababa".toList ["za".toList, "aba".toList] := by
  have hrun : ((tokenize zababa sample .plain
      (sampleRequest "zababa" ["za", "aba"])).run {}).1.toOption.map TokenizationResult.text
      = some "<ENTITY_9f768e94d53a9f006e3eb3aa>baba".toList := by
    decide +kernel
  generalize (tokenize zababa sample .plain (sampleRequest "zababa" ["za", "aba"])).run {} = answer
    at hrun
  obtain ⟨_ | result, vault'⟩ := answer
  · cases hrun
  · refine ⟨result, vault', rfl, Option.some.inj hrun, fun h => ?_⟩
    have hsegment : "baba".toList ∈ plainSegments zababa "zababa".toList
        ["za".toList, "aba".toList] := by
      decide +kernel
    have hclear := h.segments "aba".toList (by simp) (by simp) _ hsegment 1
    exact absurd hclear (by decide +kernel)

end StableTokenizer
end EsanGbos.ModelGateway
