import Retrieval.Proofs.Query.Faults

/-!
Hints for texts that cannot be read as tokens. A hint is chosen by words in the wording of the
fault, and the wording of a malformed number quotes the run behind its sign. For phrases and weights
the fixed part of the wording decides, so the sign alone does. The fixed part of the wording for
windows names no weight, but a run that is quoted can do so, and then the hint is that for weights.
-/

namespace Retrieval

/-! ### Words in a wording -/

namespace Text

/-- A word without a mark stands on one side of the mark. -/
theorem infix_append_cons_iff {mark : Char} {word front back : List Char} (h : mark ∉ word) :
    word <:+: front ++ mark :: back ↔ word <:+: front ∨ word <:+: back := by
  rw [List.infix_append_iff_ne_nil]
  constructor
  · rintro (hfront | hback | ⟨left, right, -, hright, rfl, -, hback⟩)
    · exact .inl hfront
    · obtain hback | hback := List.infix_cons_iff.mp hback
      · obtain rfl | ⟨_, rfl, -⟩ := List.prefix_cons_iff.mp hback
        · exact .inl List.nil_infix
        · exact absurd List.mem_cons_self h
      · exact .inr hback
    · -- A word that goes on behind the front would have the mark in it.
      obtain rfl | ⟨_, rfl, -⟩ := List.prefix_cons_iff.mp hback
      · exact absurd rfl hright
      · exact absurd (List.mem_append_right _ List.mem_cons_self) h
  · rintro (hfront | hback)
    · exact .inl hfront
    · exact .inr (.inl (List.infix_cons hback))

/-- A word in a label with a colon and a space, or in what the label is for. -/
theorem infix_label_iff {label quoted word : List Char} (hcolon : ':' ∉ word)
    (hspace : word.head? ≠ some ' ') :
    word <:+: label ++ ':' :: ' ' :: quoted ↔ word <:+: label ∨ word <:+: quoted := by
  rw [infix_append_cons_iff hcolon, List.infix_cons_iff]
  refine or_congr_right (or_iff_right_of_imp fun hhead => ?_)
  obtain rfl | ⟨_, rfl, -⟩ := List.prefix_cons_iff.mp hhead
  · exact List.nil_infix
  · exact absurd rfl hspace

/-- A text with white space in it is no part of a run. -/
theorem not_infix_of_solid {word run : List Char} (hword : ∃ c ∈ word, isBlank c)
    (hrun : ∀ c ∈ run, isSolid c) : ¬ word <:+: run := by
  intro hpart
  obtain ⟨c, hc, hblank⟩ := hword
  rw [isSolid_iff.mp (hrun c (hpart.subset hc))] at hblank
  cases hblank

end Text

namespace LexFault

theorem toList_message_invalidWeight (run : List Char) :
    (invalidWeight (String.ofList run)).message.toList =
      "invalid weight".toList ++ ':' :: ' ' :: run := by
  change ("invalid weight: " ++ String.ofList run).toList = _
  simp

theorem toList_message_invalidWindow (run : List Char) :
    (invalidWindow (String.ofList run)).message.toList =
      "invalid window size".toList ++ ':' :: ' ' :: run := by
  change ("invalid window size: " ++ String.ofList run).toList = _
  simp

/-- A wording that quotes a run holds a word if its label or the run does. -/
theorem contains_message_iff {fault : LexFault} {label run : List Char}
    (h : fault.message.toList = label ++ ':' :: ' ' :: run) (word : String)
    (hcolon : ':' ∉ word.toList) (hspace : word.toList.head? ≠ some ' ') :
    fault.message.contains word ↔ word.toList <:+: label ∨ word.toList <:+: run := by
  rw [String.contains_string_iff, h, Text.infix_label_iff hcolon hspace]

theorem not_contains_quote {fault : LexFault} {label run : List Char}
    (h : fault.message.toList = label ++ ':' :: ' ' :: run)
    (hlabel : ¬ "unclosed quote".toList <:+: label) (hrun : ∀ c ∈ run, Text.isSolid c) :
    ¬ fault.message.contains "unclosed quote" := by
  rw [contains_message_iff h "unclosed quote" (by decide) (by decide)]
  exact not_or.mpr ⟨hlabel, Text.not_infix_of_solid ⟨' ', by decide, by decide⟩ hrun⟩

end LexFault

/-! ### The choice of a hint -/

/-- Whether the run behind the sign of a window recalls a weight: it begins with a digit, so that it
is quoted, and holds a word by which weights are told. -/
def RecallsWeight (run : List Char) : Prop :=
  run.head?.any Char.isDigit ∧ ("'^'".toList <:+: run ∨ "weight".toList <:+: run)

instance (run : List Char) : Decidable (RecallsWeight run) :=
  inferInstanceAs (Decidable (_ ∧ _))

namespace QueryError

variable {run : List Char} {span : Span} {query : Option String}

theorem hint?_unclosedQuote : hint? ⟨.lex .unclosedQuote span, query⟩ = some .closeQuote :=
  if_pos (String.contains_string_iff.mpr List.infix_rfl)

theorem hint?_weightFault (hrun : ∀ c ∈ run, Text.isSolid c) :
    hint? ⟨.lex (weightFault run) span, query⟩ = some .giveNumber := by
  unfold weightFault
  split
  · have hmessage := LexFault.toList_message_invalidWeight run
    have hquote := LexFault.not_contains_quote hmessage (by decide) hrun
    have hweight := LexFault.contains_message_iff hmessage "weight" (by decide) (by decide)
    have hlabel : "weight".toList <:+: "invalid weight".toList := by
      decide
    simp only [hint?, hquote, hweight.mpr (.inl hlabel), Bool.or_true, if_true]
    rfl
  · have hquote : ¬ LexFault.missingWeight.message.contains "unclosed quote" := by
      rw [String.contains_string_iff]
      decide
    have hsign : LexFault.missingWeight.message.contains "'^'" := by
      rw [String.contains_string_iff]
      decide
    simp [hint?, hquote, hsign]

theorem hint?_windowFault (hrun : ∀ c ∈ run, Text.isSolid c) :
    hint? ⟨.lex (windowFault run) span, query⟩ =
      if RecallsWeight run then some .giveNumber else none := by
  unfold windowFault RecallsWeight
  split
  · rename_i hdigit
    have hmessage := LexFault.toList_message_invalidWindow run
    have hquote := LexFault.not_contains_quote hmessage (by decide) hrun
    have hsign := LexFault.contains_message_iff hmessage "'^'" (by decide) (by decide)
    have hweight := LexFault.contains_message_iff hmessage "weight" (by decide) (by decide)
    rw [or_iff_right (by decide)] at hsign hweight
    simp [hint?, hquote, hdigit, hsign, hweight]
  · rename_i hdigit
    have hwords : ∀ word ∈ ["unclosed quote", "'^'", "weight"],
        ¬ LexFault.missingWindow.message.contains word := by
      simp only [String.contains_string_iff]
      decide
    simp only [List.forall_mem_cons] at hwords
    simp [hint?, hwords, hdigit]

end QueryError

/-- The hint for a text that cannot be read as tokens follows from the text at the place of the
failure. Behind a quote it is that for quotes and behind the sign of a weight that for weights,
whatever else was typed. Behind the sign of a window there is none, unless the run recalls a
weight. -/
theorem Query.hint_of_tokenize {text : String} {failure : LexError}
    (h : tokenize text = .error failure) :
    ∃ error, parse text = .error error ∧ error = .ofLexError failure ∧
      ∃ sign run, error.fragment? = some (String.ofList (sign :: run)) ∧
        (sign = '"' ∨ sign = '^' ∨ sign = '~') ∧
        (error.hint? = some .closeQuote ↔ sign = '"') ∧
        (error.hint? = some .giveNumber ↔ sign = '^' ∨ sign = '~' ∧ RecallsWeight run) ∧
        (error.hint? = none ↔ sign = '~' ∧ ¬ RecallsWeight run) := by
  have hfailure : locateTokens text = .error failure := Except.map_eq_error_iff.mp h
  obtain ⟨part, hinput, hholds, hspoils⟩ := LexError.exists_spoils hfailure
  have hfragment : (QueryError.ofLexError failure).fragment? = some (String.ofList part) := by
    rw [← hinput] at hholds
    exact hholds.substring_eq
  refine ⟨_, by rw [parse, hfailure], rfl, ?_⟩
  obtain ⟨fault, span, input⟩ := failure
  cases hspoils with
  | @phrase content =>
      refine ⟨'"', content, hfragment, .inl rfl, ?_⟩
      rw [QueryError.ofLexError, QueryError.hint?_unclosedQuote]
      simp
  | @weight run fault hrun hfault =>
      refine ⟨'^', run, hfragment, .inr (.inl rfl), ?_⟩
      rw [QueryError.ofLexError, hfault, QueryError.hint?_weightFault hrun]
      simp
  | @window run fault hrun hfault =>
      refine ⟨'~', run, hfragment, .inr (.inr rfl), ?_⟩
      rw [QueryError.ofLexError, hfault, QueryError.hint?_windowFault hrun]
      by_cases hrecalls : RecallsWeight run <;> simp [hrecalls]

/-- A quote and a window that are faulty, next to words by which other hints are chosen. -/
theorem Query.hint_of_tokenize_two_signs :
    (∃ error, parse "\"~1weight" = .error error ∧ error.hint? = some .closeQuote) ∧
    ∃ error, parse "weight ~8x" = .error error ∧ error.hint? = none := by
  have hquote : tokenize "\"~1weight" = .error ⟨.unclosedQuote, ⟨0, 9⟩, "\"~1weight"⟩ := by
    cbv
  have hwindow : tokenize "weight ~8x" = .error ⟨.invalidWindow "8x", ⟨7, 10⟩, "weight ~8x"⟩ := by
    cbv
  obtain ⟨first, hfirst, rfl, sign, run, hfragment, -, hhint, -, -⟩ := hint_of_tokenize hquote
  obtain ⟨second, hsecond, rfl, sign', run', hfragment', -, -, -, hnone⟩ :=
    hint_of_tokenize hwindow
  refine ⟨⟨_, hfirst, hhint.mpr ?_⟩, ⟨_, hsecond, hnone.mpr ?_⟩⟩
  · have htaken : some "\"~1weight" = some (String.ofList (sign :: run)) := by
      rw [← hfragment]
      cbv
    have hchars : ['"', '~', '1', 'w', 'e', 'i', 'g', 'h', 't'] = sign :: run :=
      String.ofList_injective (Option.some.inj htaken)
    exact (List.cons.inj hchars).1.symm
  · have htaken : some "~8x" = some (String.ofList (sign' :: run')) := by
      rw [← hfragment']
      cbv
    have hchars : ['~', '8', 'x'] = sign' :: run' :=
      String.ofList_injective (Option.some.inj htaken)
    obtain ⟨rfl, rfl⟩ := List.cons.inj hchars
    exact ⟨rfl, by decide⟩

/-- Two malformed windows, one with the hint for weights and one with none: the characters behind
the digit make the difference. -/
theorem Query.hint_of_window_for_weights :
    (∃ error, parse "~1weight" = .error error ∧ error.fragment? = some "~1weight" ∧
      error.hint? = some .giveNumber) ∧
    ∃ error, parse "~1height" = .error error ∧ error.fragment? = some "~1height" ∧
      error.hint? = none := by
  have hweight : parse "~1weight" =
      .error ⟨.lex (.invalidWindow "1weight") ⟨0, 8⟩, some "~1weight"⟩ := by
    cbv
  have hheight : parse "~1height" =
      .error ⟨.lex (.invalidWindow "1height") ⟨0, 8⟩, some "~1height"⟩ := by
    cbv
  refine ⟨⟨_, hweight, by cbv, ?_⟩, ⟨_, hheight, by cbv, ?_⟩⟩
  · have hsolid : ∀ c ∈ ['1', 'w', 'e', 'i', 'g', 'h', 't'], Text.isSolid c := by
      simp [Text.isSolid, Text.isBlank]
    exact (QueryError.hint?_windowFault hsolid).trans (if_pos (by decide))
  · have hsolid : ∀ c ∈ ['1', 'h', 'e', 'i', 'g', 'h', 't'], Text.isSolid c := by
      simp [Text.isSolid, Text.isBlank]
    exact (QueryError.hint?_windowFault hsolid).trans (if_neg (by decide))

end Retrieval
