import Mathlib
import Retrieval.Proofs.Match.Canonical
import Retrieval.Proofs.Match.Merging
import Retrieval.Proofs.Query.Layers
import Retrieval.Proofs.Query.Reading
import Retrieval.Proofs.Text.Lowering

/-!
Which clauses of a query become one match term. Every clause that is read gives one match term, and
its operator is made of words. Match terms are merged if they have the same canonical text, so
clauses with equal operators always become one. Clauses with different operators do so only if one
operator imitates the other: a word may be spelled like a group of one, and a quoted word may hold a
colon where a field would end.
-/

namespace Retrieval

/-! ### Operators of clauses that are read -/

theorem IsSolid.term {text : String} (h : IsSolid text) (options : CompileOptions) :
    IsSolid (options.term text) := by
  unfold CompileOptions.term
  split
  · exact h.lowercase
  · exact h

theorem CompileOptions.terms_of_isSolid {tokens : List String} (h : ∀ token ∈ tokens, IsSolid token)
    (options : CompileOptions) : options.terms tokens = tokens.map options.term := by
  have hfilter : (tokens.filter fun token => !token.isEmpty) = tokens := by
    rw [List.filter_eq_self]
    intro token hmem
    simpa using (h token hmem).ne_empty
  rw [terms, hfilter]

/-- A shape whose terms come from words is sound. -/
theorem Shape.Sound.ofTokens {shape : Shape} {options : CompileOptions} {tokens : List String}
    (hterms : shape.terms = tokens.map options.term) (hne : tokens ≠ [])
    (hsolid : ∀ token ∈ tokens, IsSolid token)
    (htwo : ∀ terms, shape = .phrase terms → 2 ≤ terms.length) : shape.Sound where
  ne_nil := by simpa [hterms] using hne
  solid := by
    rw [hterms]
    exact List.forall_mem_map.mpr fun token hmem => (hsolid token hmem).term options
  two_le := htwo

/-- An operand that is read has a shape, whatever the options. -/
theorem Pattern.exists_shape {tokens : List Token} {pattern : Pattern} (h : pattern.Spells tokens)
    (hscanned : ∀ token ∈ tokens, token.Scanned) (options : CompileOptions) :
    ∃ shape, pattern.shape? options = some shape ∧ shape.Sound := by
  have hterm : ∀ text, IsSolid text →
      ∃ shape, (Pattern.term text).shape? options = some shape ∧ shape.Sound := by
    intro text htext
    have hsound : (Shape.term (options.term text)).Sound :=
      @Shape.Sound.ofTokens _ options [text] rfl (List.cons_ne_nil _ _)
        (List.forall_mem_singleton.mpr htext) (by rintro _ ⟨⟩)
    exact ⟨_, by simp [shape?, htext.ne_empty], hsound⟩
  cases h with
  | term text => exact hterm text (IsBare.isSolid (hscanned _ List.mem_cons_self))
  | word hwords => exact hterm _ (isSolid_of_mem_splitWords (hwords ▸ List.mem_cons_self))
  | @phrase content hlength =>
      have hwords : ∀ word ∈ Text.splitWords content, IsSolid word := fun _ =>
        isSolid_of_mem_splitWords
      have hne : Text.splitWords content ≠ [] := List.ne_nil_of_length_pos (by omega)
      refine ⟨.phrase ((Text.splitWords content).map options.term), ?_, .ofTokens rfl hne hwords ?_⟩
      · simp [shape?, CompileOptions.terms_of_isSolid hwords, hne]
      · rintro _ ⟨⟩
        rwa [List.length_map]
  | @window content size hne =>
      have hwords : ∀ word ∈ Text.splitWords content, IsSolid word := fun _ =>
        isSolid_of_mem_splitWords
      refine ⟨.window ((Text.splitWords content).map options.term) size, ?_,
        .ofTokens rfl hne hwords (by rintro _ ⟨⟩)⟩
      simp [shape?, CompileOptions.terms_of_isSolid hwords, hne]
  | @group terms hne =>
      have hterms : ∀ term ∈ terms, IsSolid term := by
        intro term hmem
        exact IsBare.isSolid (hscanned (.term term) (by simp [hmem]))
      refine ⟨.synonym (terms.map options.term), ?_, .ofTokens rfl hne hterms (by rintro _ ⟨⟩)⟩
      simp [shape?, CompileOptions.terms_of_isSolid hterms, hne]

/-- The match term of a pattern in its layers. Only the pattern decides whether there is one. -/
theorem Clause.matchTerm?_signed (sign : Option Bool) (name : Option String) (pattern : Pattern)
    (weight : Float) (options : CompileOptions) :
    ((inField name pattern weight).signed sign).matchTerm? options =
      (pattern.shape? options).map fun shape =>
        { operator := ⟨shape, name.or options.field⟩
          weight := weight * options.weight.getD 1
          required := options.required.or sign } := by
  rw [matchTerm?_eq]
  cases sign <;> cases name <;> rfl

/-- A clause that is read gives one match term. -/
theorem Clause.exists_matchTerm {tokens : List Token} {clause : Clause} (h : Spells tokens clause)
    (hscanned : ∀ token ∈ tokens, token.Scanned) {options : CompileOptions}
    (hfield : ∀ name ∈ options.field, ':' ∉ name.toList) :
    ∃ matched, clause.matchTerm? options = some matched ∧ matched.operator.Sound := by
  cases h with
  | @parts sign name factor operand pattern hpattern =>
      simp only [List.mem_append] at hscanned
      have hoperand : ∀ token ∈ operand, token.Scanned := fun token hmem =>
        hscanned token (.inr (.inr (.inl hmem)))
      obtain ⟨shape, hshape, hsound⟩ := Pattern.exists_shape hpattern hoperand options
      refine ⟨_, by rw [matchTerm?_signed, hshape, Option.map_some], hsound, ?_⟩
      intro other hother
      cases name with
      | none => exact hfield other hother
      | some name =>
          cases hother
          exact IsBare.colon_not_mem (hscanned (.field other) (.inr (.inl List.mem_cons_self)))

namespace Query

/-- Every clause of a query that was read gives one match term. -/
theorem map_matchTerm? {text : String} {query : Query} (h : parse text = .ok query) :
    query.clauses.map (Clause.matchTerm? {}) = (query.matchTerms {}).map some ∧
      ∀ matched ∈ query.matchTerms {}, matched.operator.Sound := by
  have hclauses : ∀ clause ∈ query.clauses, ∃ matched, clause.matchTerm? {} = some matched ∧
      matched.operator.Sound := by
    intro clause hmem
    obtain ⟨tokens, hscanned, hspells⟩ := spells_of_parse h clause hmem
    exact Clause.exists_matchTerm hspells hscanned nofun
  rw [matchTerms]
  refine ⟨?_, ?_⟩
  · rw [List.map_filterMap_some_eq_filter_map_isSome, eq_comm, List.filter_eq_self]
    refine List.forall_mem_map.mpr fun clause hmem => ?_
    obtain ⟨matched, hmatched, -⟩ := hclauses clause hmem
    rw [hmatched, Option.isSome_some]
  · intro matched hmatched
    obtain ⟨clause, hmem, hclause⟩ := List.mem_filterMap.mp hmatched
    obtain ⟨other, hother, hsound⟩ := hclauses clause hmem
    rw [hclause, Option.some_inj] at hother
    rwa [hother]

/-- The clauses of a query that was read become one match term if their operators have the same
canonical text, and only then. They have it if they are equal, or if one imitates the other. -/
theorem merges_iff {text : String} {query : Query} (h : parse text = .ok query) :
    query.clauses.map (Clause.matchTerm? {}) = (query.matchTerms {}).map some ∧
    (∀ position, (Collection.empty.compile query {}).terms[position]? =
      MatchTerm.mergeAll? (Collection.empty.putAt (query.matchTerms {}) position)) ∧
    ∀ (i j : Nat) (first second : MatchTerm), (query.matchTerms {})[i]? = some first →
      (query.matchTerms {})[j]? = some second →
      ((Collection.empty.places (query.matchTerms {}))[i]? =
          (Collection.empty.places (query.matchTerms {}))[j]? ↔
        first.operator.canonical = second.operator.canonical) ∧
      (first.operator.canonical = second.operator.canonical ↔
        first.operator = second.operator ∨ first.operator.Imitates second.operator ∨
          second.operator.Imitates first.operator) := by
  obtain ⟨hclauses, hsound⟩ := map_matchTerm? h
  have hempty : Collection.empty.Indexed := Collection.locates_empty
  refine ⟨hclauses, fun position => hempty.getElem?_addAll _ position, ?_⟩
  intro i j first second hi hj
  refine ⟨hempty.places_eq_iff hi hj, ?_⟩
  exact Operator.canonical_eq_iff (hsound first (List.mem_of_getElem? hi))
    (hsound second (List.mem_of_getElem? hj))

/-- The same term in all fields and in one: two occurrences become one match term, and the third is
kept apart. -/
theorem merges_iff_three_clauses :
    ∃ query, parse "a title:a a" = .ok query ∧
      (Collection.empty.places (query.matchTerms {}))[0]? =
        (Collection.empty.places (query.matchTerms {}))[2]? ∧
      (Collection.empty.places (query.matchTerms {}))[0]? ≠
        (Collection.empty.places (query.matchTerms {}))[1]? := by
  let query : Query :=
    ⟨[.ofPattern (.term "a"), .field "title" (.ofPattern (.term "a")), .ofPattern (.term "a")]⟩
  have hparse : parse "a title:a a" = .ok query := by cbv
  have hoperators : (query.matchTerms {}).map MatchTerm.operator =
      [.term "a", ⟨.term "a", some "title"⟩, .term "a"] := by
    decide +kernel
  have hoperator : ∀ i : Nat, (query.matchTerms {})[i]?.map MatchTerm.operator =
      [Operator.term "a", ⟨.term "a", some "title"⟩, .term "a"][i]? := by
    intro i
    rw [← List.getElem?_map, hoperators]
  obtain ⟨first, hfirst, hfirst'⟩ := Option.map_eq_some_iff.mp (hoperator 0)
  obtain ⟨second, hsecond, hsecond'⟩ := Option.map_eq_some_iff.mp (hoperator 1)
  obtain ⟨third, hthird, hthird'⟩ := Option.map_eq_some_iff.mp (hoperator 2)
  obtain ⟨-, -, hmerges⟩ := merges_iff hparse
  refine ⟨query, hparse, ?_, ?_⟩
  · obtain ⟨hplaces, hcanonical⟩ := hmerges 0 2 first third hfirst hthird
    rw [hplaces, hcanonical, hfirst', hthird']
    exact .inl rfl
  · obtain ⟨hplaces, hcanonical⟩ := hmerges 0 1 first second hfirst hsecond
    rw [ne_eq, hplaces, hcanonical, hfirst', hsecond']
    rintro (h | h | h)
    · cases h
    · cases h with
      | field hterm hcolon _ => simp_all [Shape.terms]
    · cases h

/-- Different operators become one match term: a word for a field, and a word for a group. -/
theorem merges_unequal_operators :
    (∃ query, parse "\"title:a\" title:a" = .ok query ∧
      (query.matchTerms {}).map MatchTerm.operator =
        [.term "title:a", ⟨.term "a", some "title"⟩] ∧
      Collection.empty.places (query.matchTerms {}) = [0, 0]) ∧
    ∃ query, parse "{a} #syn(a)" = .ok query ∧
      (query.matchTerms {}).map MatchTerm.operator =
        [⟨.synonym ["a"], none⟩, .term "#syn(a)"] ∧
      Collection.empty.places (query.matchTerms {}) = [0, 0] := by
  have hquoted : parse "\"title:a\" title:a" =
      .ok ⟨[.ofPattern (.term "title:a"), .field "title" (.ofPattern (.term "a"))]⟩ := by
    have htokens : locateTokens "\"title:a\" title:a" =
        .ok [⟨.phrase "title:a", ⟨0, 9⟩⟩, ⟨.field "title", ⟨10, 16⟩⟩, ⟨.term "a", ⟨16, 17⟩⟩] := by
      cbv
    have hfirst : Clause.takeClause [⟨.phrase "title:a", ⟨0, 9⟩⟩, ⟨.field "title", ⟨10, 16⟩⟩,
        ⟨.term "a", ⟨16, 17⟩⟩] = .ok (.ofPattern (.term "title:a"),
          [⟨.field "title", ⟨10, 16⟩⟩, ⟨.term "a", ⟨16, 17⟩⟩]) := by
      cbv
    have hsecond : Clause.ofTokens [⟨.field "title", ⟨10, 16⟩⟩, ⟨.term "a", ⟨16, 17⟩⟩] =
        .ok [.field "title" (.ofPattern (.term "a"))] := by
      cbv
    rw [parse, htokens]
    simp only [Clause.ofTokens_of_takeClause hfirst, hsecond, Except.map]
  have hgroup : parse "{a} #syn(a)" =
      .ok ⟨[.ofPattern (.synonym ["a"]), .ofPattern (.term "#syn(a)")]⟩ := by
    cbv
  exact ⟨⟨_, hquoted, by decide +kernel, by decide +kernel⟩,
    ⟨_, hgroup, by decide +kernel, by decide +kernel⟩⟩

end Query

end Retrieval
