import Retrieval.Proofs.Query.Reading

/-!
The shape of what is read. A clause that was read is a pattern, in at most one field and under at
most one requirement, the field inside the requirement. Which layers it has follows from the
grammar, and what its tokens are made of follows from the tokens of the text: a word of a phrase is
a part of text between two quotes, and all other terms are bare.
-/

namespace Retrieval

/-- A pattern as it is read. Its tokens are words without quotes; a group has a member, and so has a
phrase, which has two of them unless it has a window. -/
inductive Pattern.WellShaped : Pattern → Prop
  | term {text : String} (h : IsMember text) : WellShaped (.term text)
  | synonym {terms : List String} (hne : terms ≠ []) (h : ∀ term ∈ terms, IsMember term) :
      WellShaped (.synonym terms)
  | phrase {terms : List String} (hlength : 2 ≤ terms.length)
      (h : ∀ term ∈ terms, IsMember term) : WellShaped (.phrase terms none)
  | window {terms : List String} {size : Nat} (hne : terms ≠ [])
      (h : ∀ term ∈ terms, IsMember term) (hsize : size < 2 ^ 32) :
      WellShaped (.phrase terms (some size))

/-- A clause as it is read. The name of a field is a bare word. -/
inductive Clause.WellShaped : Clause → Prop
  | leaf {pattern : Pattern} (weight : Float) (h : pattern.WellShaped) :
      WellShaped (.leaf pattern weight)
  | field {name : String} {pattern : Pattern} (weight : Float) (hname : IsBare name.toList)
      (h : pattern.WellShaped) : WellShaped (.field name (.leaf pattern weight))
  | required (flag : Bool) {pattern : Pattern} (weight : Float) (h : pattern.WellShaped) :
      WellShaped (.required flag (.leaf pattern weight))
  | requiredField (flag : Bool) {name : String} {pattern : Pattern} (weight : Float)
      (hname : IsBare name.toList) (h : pattern.WellShaped) :
      WellShaped (.required flag (.field name (.leaf pattern weight)))

/-! ### Words -/

theorem IsBare.isMember {text : String} (h : IsBare text.toList) : IsMember text where
  ne_empty := h.isSolid.ne_empty
  solid := h.isSolid.solid
  unquoted hmem := h.unmarked '"' hmem (by simp)

/-- A word between two quotes holds no quote. -/
theorem IsMember.of_mem_splitWords {content word : String} (hcontent : '"' ∉ content.toList)
    (h : word ∈ Text.splitWords content) : IsMember word where
  ne_empty := (isSolid_of_mem_splitWords h).ne_empty
  solid := (isSolid_of_mem_splitWords h).solid
  unquoted hmem := hcontent (Text.mem_of_mem_splitWords h hmem)

/-! ### Clauses -/

theorem Pattern.Spells.wellShaped {tokens : List Token} {pattern : Pattern}
    (h : pattern.Spells tokens) (hscanned : ∀ token ∈ tokens, token.Scanned) :
    pattern.WellShaped := by
  -- Quoted words are cut out of a phrase; all other terms are tokens of their own.
  have hwords : ∀ {content : String}, .phrase content ∈ tokens →
      ∀ word ∈ Text.splitWords content, IsMember word := fun hmem _ =>
    .of_mem_splitWords (hscanned _ hmem)
  cases h with
  | term text => exact .term (IsBare.isMember (hscanned _ List.mem_cons_self))
  | word hword => exact .term (hwords List.mem_cons_self _ (hword ▸ List.mem_cons_self))
  | phrase hlength => exact .phrase hlength (hwords List.mem_cons_self)
  | window size hne =>
      exact .window hne (hwords List.mem_cons_self) (hscanned (.window size) (by simp))
  | group hne =>
      refine .synonym hne fun term hmem => ?_
      exact IsBare.isMember (hscanned (.term term) (by simp [hmem]))

theorem Clause.Spells.wellShaped {tokens : List Token} {clause : Clause} (h : Spells tokens clause)
    (hscanned : ∀ token ∈ tokens, token.Scanned) : clause.WellShaped := by
  cases h with
  | @parts sign name factor operand pattern hpattern =>
      simp only [List.mem_append] at hscanned
      have hshape : pattern.WellShaped := hpattern.wellShaped fun token hmem =>
        hscanned token (.inr (.inr (.inl hmem)))
      have hname : ∀ other ∈ name, IsBare other.toList := by
        rintro other rfl
        exact hscanned (.field other) (.inr (.inl List.mem_cons_self))
      match sign, name with
      | none, none => exact .leaf _ hshape
      | none, some name => exact .field _ (hname name rfl) hshape
      | some flag, none => exact .required flag _ hshape
      | some flag, some name => exact .requiredField flag _ (hname name rfl) hshape

/-- All clauses that are read from a text are well shaped. -/
theorem Query.wellShaped_of_parse {text : String} {query : Query} (h : parse text = .ok query) :
    ∀ clause ∈ query.clauses, clause.WellShaped := by
  intro clause hmem
  obtain ⟨tokens, hscanned, hspells⟩ := spells_of_parse h clause hmem
  exact hspells.wellShaped hscanned

/-- A group in a field under a sign, a window of one word, and a quoted word with a mark in it, with
white space of three kinds. -/
theorem Query.wellShaped_of_parse_three_clauses :
    ∃ query, parse "+:title:{a b}\u3000-\" c\u2028\"~3\t\"x:y\"" = .ok query ∧
      query.clauses.map Clause.tokens = [["a", "b"], ["c"], ["x:y"]] ∧
      ∀ clause ∈ query.clauses, clause.WellShaped := by
  have htokens : (parse "+:title:{a b}\u3000-\" c\u2028\"~3\t\"x:y\"").toOption.map
      (fun query => query.clauses.map Clause.tokens) = some [["a", "b"], ["c"], ["x:y"]] := by
    decide +kernel
  obtain ⟨query, hquery, hclauses⟩ := Option.map_eq_some_iff.mp htokens
  have hparse := Except.toOption_eq_some_iff.mp hquery
  exact ⟨query, hparse, hclauses, wellShaped_of_parse hparse⟩

end Retrieval
