import Retrieval.Proofs.Analysis.Chains

/-!
Stems and letter case. The stem of a word is made from its lower case, but whether the word is long
enough to lose its ending is asked of the word as it is written. Two words with the same lower case
therefore have the same stem, unless one of them is short, the other is long, and there is an ending
to lose. The lower case of a word is longer than the word only by the capital I with a dot.
-/

namespace Retrieval

namespace Stemmer

def Ends (cs : List Char) : Prop :=
  ∃ ending ∈ endings, ending <:+ cs

instance (cs : List Char) : Decidable (Ends cs) :=
  inferInstanceAs (Decidable (∃ ending ∈ endings, ending <:+ cs))

/-- Whether the lower case of a short word is long, and has an ending to lose. -/
def Outgrows (word : String) : Prop :=
  word.length ≤ shortLength ∧ shortLength < word.length + word.toList.count '\u0130' ∧
    Ends (Text.lowercase word).toList

instance (word : String) : Decidable (Outgrows word) :=
  inferInstanceAs (Decidable (_ ∧ _ ∧ _))

/-! ### Endings -/

theorem cutEnding_of_not_ends {cs : List Char} (h : ¬ Ends cs) : cutEnding cs = cs := by
  have hnone : (endings.findSome? fun ending => ending.isSuffixOf? cs) = none := by
    rw [List.findSome?_eq_none_iff]
    intro ending hending
    rw [Option.eq_none_iff_forall_ne_some]
    intro stem hstem
    exact h ⟨ending, hending, stem, List.append_eq_of_isSuffixOf?_eq_some hstem⟩
  rw [cutEnding, hnone, Option.getD_none]

theorem length_ending_pos : ∀ ending ∈ endings, 0 < ending.length := by
  decide

theorem length_cutEnding_lt {cs : List Char} (h : Ends cs) :
    (cutEnding cs).length < cs.length := by
  obtain ⟨ending, hending, hsuffix⟩ := h
  obtain ⟨stem, hstem⟩ : ∃ stem, (endings.findSome? fun other => other.isSuffixOf? cs) =
      some stem := by
    rw [← Option.isSome_iff_exists, List.findSome?_isSome_iff]
    refine ⟨ending, hending, ?_⟩
    rwa [List.isSome_isSuffixOf?_eq_isSuffixOf, List.isSuffixOf_iff_suffix]
  obtain ⟨cut, hcut, hrest⟩ := List.exists_of_findSome?_eq_some hstem
  have hlength := congrArg List.length (List.append_eq_of_isSuffixOf?_eq_some hrest)
  have hpos := length_ending_pos cut hcut
  rw [List.length_append] at hlength
  rw [cutEnding, hstem, Option.getD_some]
  omega

theorem cutEnding_eq_self_iff {cs : List Char} : cutEnding cs = cs ↔ ¬ Ends cs := by
  refine ⟨fun heq hends => ?_, cutEnding_of_not_ends⟩
  have hlength := length_cutEnding_lt hends
  rw [heq] at hlength
  exact lt_irrefl _ hlength

/-! ### Words -/

/-- The stem of a word as its lower case, cut if the word is long. -/
theorem toList_stem (word : String) :
    (stem word).toList = if shortLength < word.length
      then cutEnding (Text.lowercase word).toList else (Text.lowercase word).toList := by
  rw [stem]
  split
  · rw [String.toList_ofList]
  · rfl

/-- Two words with the same lower case have the same stem exactly if they are both long, both short
or have no ending to lose. -/
theorem stem_eq_stem_iff {first second : String}
    (h : Text.lowercase first = Text.lowercase second) :
    stem first = stem second ↔
      ((shortLength < first.length ↔ shortLength < second.length) ∨
        ¬ Ends (Text.lowercase second).toList) := by
  rw [← String.toList_inj, toList_stem, toList_stem, h, ← cutEnding_eq_self_iff]
  by_cases hfirst : shortLength < first.length <;> by_cases hsecond : shortLength < second.length
  · simp [hfirst, hsecond]
  · simp [hfirst, hsecond]
  · simpa [hfirst, hsecond] using eq_comm
  · simp [hfirst, hsecond]

/-- The stem of the lower case of a word is that of the word, unless it outgrows the short words. -/
theorem stem_lowercase_iff (word : String) :
    stem (Text.lowercase word) = stem word ↔ ¬ Outgrows word := by
  rw [stem_eq_stem_iff (Text.lowercase_lowercase word), Text.length_lowercase, Outgrows]
  have hlong : shortLength < word.length →
      shortLength < word.length + word.toList.count '\u0130' := fun h => by omega
  constructor
  · rintro (hsame | hends) ⟨hshort, hgrown, hword⟩
    · exact absurd (hsame.mp hgrown) (by omega)
    · exact hends hword
  · intro hkeeps
    by_cases hends : Ends (Text.lowercase word).toList
    · refine .inl ⟨fun hgrown => ?_, hlong⟩
      by_contra hshort
      exact hkeeps ⟨by omega, hgrown, hends⟩
    · exact .inr hends

end Stemmer

namespace Pipeline

/-- A stage that lowers tokens makes no difference right before the stemmer, unless it meets a word
that outgrows the short words. -/
theorem process_lowercase_stemmer {first : Pipeline} {token : String} (rest : Pipeline)
    (h : ∀ word, first.process token = some word → ¬ Stemmer.Outgrows word) :
    (first ++ ofBuiltins [.lowercase, .stemmer] ++ rest).process token =
      (first ++ ofBuiltins [.stemmer] ++ rest).process token := by
  simp only [process_append]
  cases hfirst : first.process token with
  | none => rfl
  | some word =>
      have hstem := (Stemmer.stem_lowercase_iff word).mpr (h word hfirst)
      change (some (Stemmer.stem (Text.lowercase word))).bind rest.process =
        (some (Stemmer.stem word)).bind rest.process
      rw [hstem]

end Pipeline

namespace Stemmer

/-- Stems know letter case only by the length of a word. Words with the same lower case have
different stems exactly if one of them is short, the other is long and there is an ending to lose;
this sets a word apart from its lower case exactly if it outgrows the short words; and if the stages
before the stemmer make no such word of a token, then it makes no difference whether the token is
lowered before it is stemmed. -/
theorem stem_by_length_and_lowercase :
    (∀ first second : String, Text.lowercase first = Text.lowercase second →
      (stem first = stem second ↔
        ((shortLength < first.length ↔ shortLength < second.length) ∨
          ∀ ending ∈ endings, ¬ ending <:+ (Text.lowercase second).toList))) ∧
    (∀ word : String, stem (Text.lowercase word) = stem word ↔ ¬ Outgrows word) ∧
    ∀ (first rest : Pipeline) (token : String),
      (∀ word, first.process token = some word → ¬ Outgrows word) →
      (first ++ Pipeline.ofBuiltins [.lowercase, .stemmer] ++ rest).process token =
        (first ++ Pipeline.ofBuiltins [.stemmer] ++ rest).process token := by
  refine ⟨fun first second h => ?_, stem_lowercase_iff,
    fun first rest token h => Pipeline.process_lowercase_stemmer rest h⟩
  rw [stem_eq_stem_iff h, Ends]
  push Not
  rfl

/-- A short word with a capital I with a dot: it keeps its ending, but its lower case, which has one
character more, loses it. -/
theorem stem_tells_case :
    Text.lowercase "\u0130as" = Text.lowercase "i\u0307as" ∧
      stem "\u0130as" ≠ stem "i\u0307as" := by
  decide +kernel

end Stemmer

end Retrieval
