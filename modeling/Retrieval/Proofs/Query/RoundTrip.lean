import Retrieval.Proofs.Query.Grammar
import Retrieval.Proofs.Query.Lexing
import Retrieval.Query.Written

/-!
Reading what was written. The parts of a clause are written without anything between them, so every
lexeme must end where the next part begins: a word before a weight, a window before a weight, and a
weight before the space that separates two clauses. The text is therefore lexed from its end, and
what is lexed spells the clauses that were written.
-/

namespace Retrieval

/-! ### What can be read as it is written -/

structure IsMember (text : String) : Prop where
  ne_empty : text ≠ ""
  solid : ∀ c ∈ text.toList, Text.isSolid c
  unquoted : '"' ∉ text.toList

structure IsWeight (weight : Float) : Prop where
  finite : weight.isFinite
  unsigned : weight.toBits.toNat < 2 ^ 63

/-- A pattern that is written like an operand. Groups are not, and a phrase of one member without a
window would be read as a term. -/
inductive Pattern.Writable : Pattern → Prop
  | term {text : String} (h : IsWord text) : Writable (.term text)
  | phrase {terms : List String} (hlength : 2 ≤ terms.length)
      (h : ∀ term ∈ terms, IsMember term) : Writable (.phrase terms none)
  | window {terms : List String} {size : Nat} (hne : terms ≠ [])
      (h : ∀ term ∈ terms, IsMember term) (hsize : size < Lexeme.windowLimit) :
      Writable (.phrase terms (some size))

/-- A clause that is written like a segment: a pattern with a weight, in a field or not, and under a
sign or not. -/
inductive Clause.Writable : Clause → Prop
  | parts (sign : Option Bool) {name : Option String} {pattern : Pattern} {weight : Float}
      (hname : ∀ field ∈ name, IsWord field) (hpattern : pattern.Writable)
      (hweight : IsWeight weight) : Writable ((inField name pattern weight).signed sign)

/-! ### Lexing from the end -/

abbrev EndsOperand (rest : List Char) : Prop :=
  Text.Stops (fun c => Text.isSolid c && c != '^') rest

theorem EndsOperand.stops {rest : List Char} (h : EndsOperand rest) {p : Char → Bool}
    (hp : ∀ c, Text.isBlank c → p c = false) (hweight : p '^' = false) : Text.Stops p rest := by
  intro c hc
  have hends := h c hc
  by_cases hcaret : c = '^'
  · rw [hcaret]
    exact hweight
  · refine hp c (Text.isSolid_eq_false_iff.mp ?_)
    simpa [hcaret] using hends

theorem Ended.endsOperand {rest : List Char} (h : Ended rest) : EndsOperand rest := by
  refine h.stops ?_
  intro c hc
  rw [Text.isSolid_eq_false_iff.mpr hc, Bool.false_and]

theorem EndsOperand.atBoundary {rest : List Char} (h : EndsOperand rest) :
    Lexeme.atBoundary (fun c => c == '}' || c == '^') rest := by
  refine Lexeme.atBoundary_of_stops (h.stops ?_ rfl)
  intro c hc
  rw [Text.isSolid_eq_false_iff.mpr hc, Bool.false_and]

theorem IsMember.splitWords_intercalate {terms : List String}
    (h : ∀ term ∈ terms, IsMember term) : Text.splitWords (" ".intercalate terms) = terms :=
  Text.splitWords_intercalate fun term hterm => ⟨(h term hterm).ne_empty, (h term hterm).solid⟩

theorem IsMember.quote_not_mem_intercalate {terms : List String}
    (h : ∀ term ∈ terms, IsMember term) : '"' ∉ (" ".intercalate terms).toList := by
  rw [String.toList_intercalate]
  intro hquote
  obtain hspace | ⟨_, hchars, hmem⟩ := Text.mem_intercalate hquote
  · cases hspace
  · obtain ⟨term, hterm, rfl⟩ := List.mem_map.mp hchars
    exact (h term hterm).unquoted hmem

namespace Lexes

variable {rest : List Char} {tokens : List Token}

theorem pattern {pattern : Pattern} (hpattern : pattern.Writable) (hrest : EndsOperand rest)
    (h : Lexes rest tokens) : ∃ operand, pattern.Spells operand ∧
      Lexes (pattern.written.toList ++ rest) (operand ++ tokens) := by
  cases hpattern with
  | term htext =>
      refine ⟨_, .term _, Lexes.term htext (hrest.stops ?_ rfl) h⟩
      intro c hc
      rw [inWord_of_isBlank hc, Bool.false_or, beq_eq_false_iff_ne]
      rintro rfl
      cases hc
  | @phrase terms hlength hterms =>
      have hwords := IsMember.splitWords_intercalate hterms
      refine ⟨[.phrase (" ".intercalate terms)], ?_, ?_⟩
      · have hspells := Pattern.Spells.phrase (hwords.symm ▸ hlength)
        rwa [hwords] at hspells
      · have hquote := IsMember.quote_not_mem_intercalate hterms
        simpa [Pattern.written] using Lexes.phrase hquote h
  | @window terms size hne hterms hsize =>
      have hwords := IsMember.splitWords_intercalate hterms
      refine ⟨[.phrase (" ".intercalate terms), .window size], ?_, ?_⟩
      · have hspells := Pattern.Spells.window size (hwords.symm ▸ hne)
        rwa [hwords] at hspells
      · have hquote := IsMember.quote_not_mem_intercalate hterms
        have hstops : Text.Stops Char.isDigit rest :=
          hrest.stops (fun c hc => isDigit_of_isBlank hc) rfl
        have hwindow := Lexes.window hsize hstops hrest.atBoundary h
        simpa [Pattern.written] using Lexes.phrase hquote hwindow

/-- The default weight is not written, and no factor is read; any other weight is the factor. -/
theorem factor {weight : Float} (hweight : IsWeight weight)
    (hread : Decimal.parse? (Decimal.write weight) = some weight) (hrest : Ended rest)
    (h : Lexes rest tokens) : ∃ factor, Clause.weightOf factor = weight ∧
      EndsOperand ((Clause.writeWeight weight).toList ++ rest) ∧
      Lexes ((Clause.writeWeight weight).toList ++ rest) (Token.ofWeight factor ++ tokens) := by
  cases hdefault : weight == Clause.defaultWeight with
  | true =>
      have hwritten : (Clause.writeWeight weight).toList ++ rest = rest := by
        rw [Clause.writeWeight, if_pos hdefault]
        rfl
      rw [hwritten]
      exact ⟨none, (Double.eq_one_of_beq hdefault).symm, hrest.endsOperand, h⟩
  | false =>
      have hwritten : (Clause.writeWeight weight).toList ++ rest =
          '^' :: ((Decimal.write weight).toList ++ rest) := by
        rw [Clause.writeWeight, hdefault, if_neg Bool.false_ne_true, String.toList_append]
        rfl
      rw [hwritten]
      exact ⟨some weight, Double.one_mul weight, Text.stops_cons rfl,
        Lexes.weight hweight.finite hweight.unsigned hread hrest h⟩

theorem inField {name : Option String} {pattern : Pattern} {weight : Float}
    (hname : ∀ field ∈ name, IsWord field)
    (h : Lexes (pattern.written.toList ++ ((Clause.writeWeight weight).toList ++ rest)) tokens) :
    Lexes ((Clause.inField name pattern weight).written.toList ++ rest)
      (Token.ofField name ++ tokens) := by
  cases name with
  | none => simpa [Clause.inField, Clause.written, Token.ofField] using h
  | some name =>
      have hfield := Lexes.field (hname name rfl) h
      simpa [Clause.inField, Clause.written, Token.ofField] using hfield

theorem signed (sign : Option Bool) {clause : Clause}
    (h : Lexes (clause.written.toList ++ rest) tokens) :
    Lexes ((clause.signed sign).written.toList ++ rest) (Token.ofSign sign ++ tokens) := by
  match sign with
  | none => exact h
  | some true => simpa [Clause.signed, Clause.written, Token.ofSign] using h.plus
  | some false => simpa [Clause.signed, Clause.written, Token.ofSign] using h.minus

end Lexes

theorem Clause.weight_signed_inField (sign : Option Bool) (name : Option String)
    (pattern : Pattern) (weight : Float) :
    ((inField name pattern weight).signed sign).weight = weight := by
  cases sign <;> cases name <;> rfl

/-- A clause is written as the tokens of a segment that spells it. -/
theorem Lexes.clause {clause : Clause} (hclause : clause.Writable)
    (hread : Decimal.parse? (Decimal.write clause.weight) = some clause.weight)
    {rest : List Char} {tokens : List Token} (hrest : Ended rest) (h : Lexes rest tokens) :
    ∃ segment, clause.Spells segment ∧
      Lexes (clause.written.toList ++ rest) (segment ++ tokens) := by
  obtain ⟨sign, hname, hpattern, hweight⟩ := hclause
  rename_i name pattern weight
  rw [Clause.weight_signed_inField] at hread
  -- From the end of the text to its beginning: the weight, the operand, the field, the sign.
  obtain ⟨factor, rfl, hends, hfactor⟩ := Lexes.factor hweight hread hrest h
  obtain ⟨operand, hspells, hoperand⟩ := Lexes.pattern hpattern hends hfactor
  refine ⟨_, .parts sign name factor hspells, ?_⟩
  simpa only [List.append_assoc] using (hoperand.inField hname).signed sign

/-! ### The whole text -/

/-- The clauses of a chain are written as the tokens of segments that spell them. -/
theorem Lexes.intercalate {chain : List Clause} (hchain : ∀ clause ∈ chain, clause.Writable)
    (hread : ∀ clause ∈ chain, Decimal.parse? (Decimal.write clause.weight) = some clause.weight) :
    ∃ segments, List.Forall₂ Clause.Spells segments chain ∧
      Lexes ([' '].intercalate (chain.map fun clause => clause.written.toList))
        segments.flatten := by
  -- A clause is only lexed once what follows is, so the chain is taken from its end.
  induction chain with
  | nil => exact ⟨[], .nil, .nil⟩
  | cons clause chain ih =>
      obtain ⟨hclause, hchain⟩ := List.forall_mem_cons.mp hchain
      obtain ⟨hweight, hweights⟩ := List.forall_mem_cons.mp hread
      obtain ⟨segments, hspells, hlexes⟩ := ih hchain hweights
      cases chain with
      | nil =>
          obtain ⟨segment, hsegment, hclauses⟩ :=
            Lexes.clause hclause hweight Text.stops_nil Lexes.nil
          refine ⟨[segment], .cons hsegment .nil, ?_⟩
          simpa using hclauses
      | cons next chain =>
          have hended : Ended (' ' :: [' '].intercalate
              ((next :: chain).map fun clause => clause.written.toList)) := Text.stops_cons rfl
          obtain ⟨segment, hsegment, hclauses⟩ :=
            Lexes.clause hclause hweight hended (Lexes.blank rfl hlexes)
          refine ⟨segment :: segments, .cons hsegment hspells, ?_⟩
          rw [List.map_cons, List.map_cons, List.intercalate_cons_cons]
          simpa using hclauses

/-- A list is cut where its image is. -/
theorem exists_flatten_of_map_eq {located : List Located} {segments : List (List Token)}
    (h : located.map Located.token = segments.flatten) :
    ∃ parts : List (List Located), parts.flatten = located ∧
      parts.map (List.map Located.token) = segments := by
  induction segments generalizing located with
  | nil =>
      rw [List.map_eq_nil_iff.mp h]
      exact ⟨[], rfl, rfl⟩
  | cons segment segments ih =>
      obtain ⟨part, after, rfl, rfl, hafter⟩ := List.map_eq_append_iff.mp h
      obtain ⟨parts, rfl, rfl⟩ := ih hafter
      exact ⟨part :: parts, rfl, rfl⟩

theorem Clause.ofTokens_of_segments {located : List Located} {segments : List (List Token)}
    {chain : List Clause} (h : List.Forall₂ Spells segments chain)
    (hlocated : located.map Located.token = segments.flatten) : ofTokens located = .ok chain := by
  obtain ⟨parts, rfl, rfl⟩ := exists_flatten_of_map_eq hlocated
  exact ofTokens_of_split ⟨rfl, List.forall₂_map_left_iff.mp h⟩

/-- A query is read as it is written, if its clauses are written like segments and the texts of
their weights are read as these weights. -/
theorem Query.parse_written (query : Query) (h : ∀ clause ∈ query.clauses, clause.Writable)
    (hread : ∀ clause ∈ query.clauses,
      Decimal.parse? (Decimal.write clause.weight) = some clause.weight) :
    Query.parse query.written = .ok query := by
  obtain ⟨segments, hspells, hlexes⟩ := Lexes.intercalate h hread
  obtain ⟨located, hlocated, htokens⟩ := hlexes.locate_eq 0
  have htext : query.written.toList =
      [' '].intercalate (query.clauses.map fun clause => clause.written.toList) := by
    rw [Query.written, String.toList_intercalate, List.map_map]
    rfl
  have hlocate : locateTokens query.written = .ok located := by
    rw [locateTokens, htext, hlocated]
  rw [Query.parse, hlocate]
  simp only [Clause.ofTokens_of_segments hspells htokens]

/-- A window in a field, a term, and a phrase, with and without a sign and a weight. -/
theorem Query.parse_written_three_clauses :
    let query : Query := ⟨[
      .required true (.field "title" (.leaf (.phrase ["a", "b"] (some 8)) 2.5)),
      .leaf (.term "x-1") 1,
      .required false (.leaf (.phrase ["c:", "+d"] none) 0.1)]⟩
    query.written = "+title:\"a b\"~8^2.5 x-1 -\"c: +d\"^0.1" ∧
    (∀ clause ∈ query.clauses, clause.Writable) ∧
    (∀ clause ∈ query.clauses,
      Decimal.parse? (Decimal.write clause.weight) = some clause.weight) ∧
    Query.parse query.written = .ok query := by
  intro query
  have hmember : ∀ term ∈ ["a", "b", "c:", "+d"], IsMember term := by
    simp only [List.forall_mem_cons]
    refine ⟨?_, ?_, ?_, ?_, List.forall_mem_nil _⟩ <;>
      exact ⟨by simp, by simp [Text.isSolid, Text.isBlank], by simp⟩
  have hwindow : Pattern.Writable (.phrase ["a", "b"] (some 8)) :=
    .window (by decide) (fun term hterm => hmember term (List.mem_append_left _ hterm))
      (by decide)
  have hphrase : Pattern.Writable (.phrase ["c:", "+d"] none) :=
    .phrase (by decide) fun term hterm => hmember term (List.mem_append_right ["a", "b"] hterm)
  have hterm : Pattern.Writable (.term "x-1") :=
    .term ⟨by simp, by simp [Text.isSolid, Text.isBlank], by simp, by simp⟩
  have htitle : IsWord "title" :=
    ⟨by simp, by simp [Text.isSolid, Text.isBlank], by simp, by simp⟩
  have hwritable : ∀ clause ∈ query.clauses, clause.Writable := by
    simp only [query, List.forall_mem_cons]
    refine ⟨?_, ?_, ?_, List.forall_mem_nil _⟩
    · exact @Clause.Writable.parts (some true) (some "title") _ _ (by simpa using htitle) hwindow
        ⟨by decide, by decide⟩
    · exact @Clause.Writable.parts none none _ _ (by simp) hterm ⟨by decide, by decide⟩
    · exact @Clause.Writable.parts (some false) none _ _ (by simp) hphrase
        ⟨by decide, by decide⟩
  have hread : ∀ clause ∈ query.clauses,
      Decimal.parse? (Decimal.write clause.weight) = some clause.weight := by
    decide
  exact ⟨by decide, hwritable, hread, Query.parse_written query hwritable hread⟩

end Retrieval
