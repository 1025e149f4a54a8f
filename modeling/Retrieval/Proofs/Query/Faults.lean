import Retrieval.Proofs.Query.Numbers

/-!
The faults of lexemes. The first character that a faulty lexeme takes says what it was meant to be,
a phrase, a weight or a window. The fault of a number is that of the run behind its sign, and a run
holds no white space, so the wording of a fault quotes at most a part of one line of the text.
-/

namespace Retrieval

/-- The fault that some characters have. -/
inductive LexFault.Spoils : List Char → LexFault → Prop
  | phrase {content : List Char} : Spoils ('"' :: content) .unclosedQuote
  | weight {run : List Char} {fault : LexFault} (hrun : ∀ c ∈ run, Text.isSolid c)
      (hfault : fault = weightFault run) : Spoils ('^' :: run) fault
  | window {run : List Char} {fault : LexFault} (hrun : ∀ c ∈ run, Text.isSolid c)
      (hfault : fault = windowFault run) : Spoils ('~' :: run) fault

namespace Lexeme

variable {cs : List Char} {fault : LexFault}

/-- The run that follows a sign. -/
theorem isRun_takeWhile (cs : List Char) : IsRun (cs.takeWhile inRun) (cs.dropWhile inRun) where
  inside c hc := by
    have hrun := List.mem_takeWhile_imp hc
    simpa [inRun] using hrun
  ends c hc := by
    have hrun : inRun c = false := by
      have hends := List.head?_dropWhile_not inRun cs
      rwa [Option.mem_def.mp hc] at hends
    rw [inRun, Bool.and_eq_false_iff] at hrun
    simpa using hrun

theorem solid_of_isRun {run rest : List Char} (h : IsRun run rest) : ∀ c ∈ run, Text.isSolid c :=
  fun c hc => Text.isSolid_iff.mpr (h.inside c hc).1

theorem spoils_phrase (h : (phrase cs).outcome = .error fault) :
    fault.Spoils (phrase cs).text := by
  simp only [phrase] at h ⊢
  split at h
  · cases h
    exact .phrase
  · cases h

theorem spoils_weight (h : (weight cs).outcome = .error fault) :
    fault.Spoils (weight cs).text := by
  have hrun := isRun_takeWhile cs
  rw [← List.takeWhile_append_dropWhile (p := inRun) (l := cs)] at h ⊢
  by_cases hnumeral : Decimal.IsNumeral (cs.takeWhile inRun)
  · rw [weight_of_isNumeral hrun hnumeral] at h
    cases h
  · rw [weight_of_not_isNumeral hrun hnumeral] at h ⊢
    exact .weight (solid_of_isRun hrun) (Except.error.inj h).symm

theorem spoils_window (h : (window cs).outcome = .error fault) :
    fault.Spoils (window cs).text := by
  have hrun := isRun_takeWhile cs
  rw [← List.takeWhile_append_dropWhile (p := inRun) (l := cs)] at h ⊢
  by_cases hwindow : BeginsWindow (cs.takeWhile inRun)
  · rw [window_of_beginsWindow hrun hwindow] at h
    cases h
  · rw [window_of_not_beginsWindow hrun hwindow] at h ⊢
    exact .window (solid_of_isRun hrun) (Except.error.inj h).symm

theorem word_outcome_ne_error (c : Char) (cs : List Char) (fault : LexFault) :
    (word c cs).outcome ≠ .error fault := by
  unfold word
  split <;> simp

theorem colons_outcome_ne_error (cs : List Char) (fault : LexFault) :
    (colons cs).outcome ≠ .error fault := by
  simp only [colons]
  split
  · simp
  · split
    · exact word_outcome_ne_error _ _ _
    · simp

/-- What a faulty lexeme takes from a text has its fault. -/
theorem spoils_scan {c : Char} (h : (scan c cs).outcome = .error fault) :
    fault.Spoils (scan c cs).text := by
  unfold scan at h ⊢
  split at h
  · exact spoils_phrase h
  · cases h
  · cases h
  · cases h
  · cases h
  · exact spoils_weight h
  · exact spoils_window h
  · exact absurd h (colons_outcome_ne_error _ _)
  · exact absurd h (word_outcome_ne_error _ _ _)

end Lexeme

/-- A text that cannot be read as tokens holds the characters with the fault at the place that is
told. -/
theorem LexError.exists_spoils {text : String} {failure : LexError}
    (h : locateTokens text = .error failure) :
    ∃ part, failure.input = text ∧ failure.span.Holds 0 text.toList part ∧
      failure.fault.Spoils part := by
  obtain ⟨tokens, position, c, cs, fault, hread, -, hscan, rfl⟩ := locateTokens_eq_error_iff.mp h
  refine ⟨(Lexeme.scan c cs).text, rfl, ?_, Lexeme.spoils_scan hscan⟩
  rw [← Lexeme.text_append_rest] at hread
  exact hread.holds

end Retrieval
