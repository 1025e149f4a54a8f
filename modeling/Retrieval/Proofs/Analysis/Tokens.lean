import Retrieval.Proofs.Analysis.Stemming

/-!
Tokens on their way through the stages that come with the engine. A token that is not empty and
holds no white space stays so: lower case has a character for each character of a word and makes no
white space, and the endings that the stemmer cuts are shorter than the words that it cuts them
from. So a term is never empty, and never falls apart into several words.
-/

namespace Retrieval

namespace Stemmer

theorem length_ending_le : ∀ ending ∈ endings, ending.length ≤ shortLength := by
  decide

/-- A word loses at most as many characters as a short word has. -/
theorem length_le_cutEnding (cs : List Char) : cs.length ≤ (cutEnding cs).length + shortLength := by
  unfold cutEnding
  cases hcut : endings.findSome? fun ending => ending.isSuffixOf? cs with
  | none => exact Nat.le_add_right ..
  | some stem =>
      obtain ⟨ending, hmem, hending⟩ := List.exists_of_findSome?_eq_some hcut
      have hlength := congrArg List.length (List.append_eq_of_isSuffixOf?_eq_some hending)
      rw [List.length_append] at hlength
      rw [Option.getD_some, ← hlength]
      exact Nat.add_le_add_left (length_ending_le ending hmem) _

theorem isSolid_stem {word : String} (h : IsSolid word) : IsSolid (stem word) := by
  rw [stem]
  split
  · rename_i hlong
    refine .ofList ?_ fun c hc => h.lowercase.solid c (mem_of_mem_cutEnding hc)
    -- The length is asked of the word, and its lower case is no shorter.
    have hcut := length_le_cutEnding (Text.lowercase word).toList
    rw [String.length_toList, Text.length_lowercase] at hcut
    rw [← List.length_pos_iff]
    omega
  · exact h.lowercase

end Stemmer

/-- A token that one stage keeps is neither empty afterwards nor has it white space in it. -/
theorem Builtin.isSolid_of_process {builtin : Builtin} {token term : String}
    (h : builtin.process token = some term) (htoken : IsSolid token) : IsSolid term := by
  cases builtin with
  | lowercase =>
      cases h
      exact htoken.lowercase
  | stemmer =>
      cases h
      exact Stemmer.isSolid_stem htoken
  | stopwords list => rwa [eq_of_process rfl h]
  | removeLong limit => rwa [eq_of_process rfl h]

namespace Pipeline

/-- Stages that come with the engine, in any number and order, discard a token or make of it one
that again is not empty and free of white space. -/
theorem process_eq_none_or_isSolid {token : String} (h : IsSolid token) (builtins : List Builtin) :
    (ofBuiltins builtins).process token = none ∨
      ∃ term, (ofBuiltins builtins).process token = some term ∧ IsSolid term := by
  induction builtins generalizing token with
  | nil => exact .inr ⟨token, rfl, h⟩
  | cons builtin builtins ih =>
      have hprocess : (ofBuiltins (builtin :: builtins)).process token =
          (builtin.process token).bind (ofBuiltins builtins).process := rfl
      rw [hprocess]
      cases hnext : builtin.process token with
      | none => exact .inl rfl
      | some next => exact ih (Builtin.isSolid_of_process hnext h)

/-- A word of four characters that ends in three to cut, before a limit of two bytes. -/
theorem process_eq_none_or_isSolid_ending : IsSolid "Ñies" ∧
    ∃ term, (ofBuiltins [.stopwords (.ofList ["the"]), .stemmer, .lowercase,
      .removeLong 2]).process "Ñies" = some term ∧ term = "ñ" ∧ IsSolid term := by
  have hsolid : IsSolid "Ñies" := ⟨by decide, by simp [Text.isSolid, Text.isBlank]⟩
  have hterm : (ofBuiltins [.stopwords (.ofList ["the"]), .stemmer, .lowercase,
      .removeLong 2]).process "Ñies" = some "ñ" := by
    decide +kernel
  refine ⟨hsolid, "ñ", hterm, rfl, ?_⟩
  obtain hnone | ⟨term, hsome, hkept⟩ := process_eq_none_or_isSolid hsolid
    [.stopwords (.ofList ["the"]), .stemmer, .lowercase, .removeLong 2]
  · rw [hterm] at hnone
    cases hnone
  · rw [hterm] at hsome
    cases hsome
    exact hkept

end Pipeline

end Retrieval
