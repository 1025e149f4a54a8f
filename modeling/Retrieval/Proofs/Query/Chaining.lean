import Retrieval.Proofs.Query.Reading
import Retrieval.Query.Compile

/-!
Queries with white space between them. A lexeme that is a token or nothing ends before white space
as it ends before the end of the text, so the tokens of two texts are those of the first and then
those of the second. A clause could only go on after white space with a weight or a window, or with
the operand of a field, and a text that is a query by itself neither begins with the former nor ends
before the latter.
-/

namespace Retrieval

/-! ### Lexemes before white space -/

namespace Lexeme

/-- A lexeme with more text after it. -/
def before (lexeme : Lexeme) (after : List Char) : Lexeme :=
  { lexeme with rest := lexeme.rest ++ after }

variable {after : List Char}

theorem phrase_append {cs : List Char} {token? : Option Token}
    (h : (phrase cs).outcome = .ok token?) : phrase (cs ++ after) = (phrase cs).before after := by
  -- The closing quote stands before the text that is added.
  cases hquote : cs.dropWhile (· != '"') with
  | nil => simp [phrase, hquote] at h
  | cons quote rest =>
      have hcs := List.takeWhile_append_dropWhile (p := (· != '"')) (l := cs)
      have hlength : (cs.takeWhile (· != '"')).length ≠ cs.length := by
        have hlength := congrArg List.length hcs
        rw [hquote, List.length_append, List.length_cons] at hlength
        omega
      have htake : (cs ++ after).takeWhile (· != '"') = cs.takeWhile (· != '"') := by
        rw [List.takeWhile_append, if_neg hlength]
      have hdrop : (cs ++ after).dropWhile (· != '"') = quote :: (rest ++ after) := by
        rw [List.dropWhile_append, hquote]
        rfl
      simp only [phrase, htake, hdrop, hquote]
      rfl

theorem word_append (hafter : Ended after) (c : Char) (cs : List Char) :
    word c (cs ++ after) = (word c cs).before after := by
  have hstops : Text.Stops inWord after := hafter.stops fun _ => inWord_of_isBlank
  have hcolon : ∀ rest, after ≠ ':' :: rest := by
    rintro rest rfl
    cases hafter ':' rfl
  simp only [word, Text.takeWhile_append_of_stops hstops, Text.dropWhile_append_of_stops hstops]
  cases hrest : cs.dropWhile inWord with
  | nil => simp [before]
  | cons d rest =>
      by_cases hd : d = ':'
      · subst hd
        rfl
      · simp [hd, before]

theorem colons_append (hafter : Ended after) (cs : List Char) :
    colons (cs ++ after) = (colons cs).before after := by
  have hstops : Text.Stops (· == ':') after := by
    refine hafter.stops fun c hc => ?_
    rw [beq_eq_false_iff_ne]
    rintro rfl
    cases hc
  simp only [colons, Text.takeWhile_append_of_stops hstops, Text.dropWhile_append_of_stops hstops]
  cases hrest : cs.dropWhile (· == ':') with
  | nil =>
      -- White space after colons begins no word.
      cases after with
      | nil => rfl
      | cons blank after =>
          have hblank := inWord_of_isBlank (Text.isSolid_eq_false_iff.mp (hafter blank rfl))
          simp [hblank, before]
  | cons d rest =>
      simp only [List.cons_append]
      split
      · rw [word_append hafter]
        rfl
      · rfl

theorem atBoundary_append (hafter : Ended after) (follows : Char → Bool) (cs : List Char) :
    atBoundary follows (cs ++ after) = atBoundary follows cs := by
  cases cs with
  | nil => exact hafter.atBoundary follows
  | cons c cs => rfl

theorem weight_append (hafter : Ended after) {cs : List Char} {token? : Option Token}
    (h : (weight cs).outcome = .ok token?) : weight (cs ++ after) = (weight cs).before after := by
  have hscan := Decimal.Numeral.scan_append
    (hafter.stops fun _ => inNumeral_of_isBlank) cs
  simp only [weight, hscan, atBoundary_append hafter] at h ⊢
  split
  · rename_i hempty
    simp [hempty, malformed] at h
  · rename_i hne
    rw [if_neg hne] at h
    split
    · split
      · rfl
      · rename_i hvalue hboundary
        simp [hvalue, hboundary, malformed] at h
    · rename_i hvalue
      simp [hvalue, malformed] at h

theorem window_append (hafter : Ended after) {cs : List Char} {token? : Option Token}
    (h : (window cs).outcome = .ok token?) : window (cs ++ after) = (window cs).before after := by
  have hstops : Text.Stops Char.isDigit after := hafter.stops fun _ => isDigit_of_isBlank
  simp only [window, Text.takeWhile_append_of_stops hstops,
    Text.dropWhile_append_of_stops hstops, atBoundary_append hafter] at h ⊢
  split
  · rename_i hempty
    simp [hempty, malformed] at h
  · rename_i hne
    rw [if_neg hne] at h
    split
    · rfl
    · rename_i hsize
      rw [if_neg hsize] at h
      cases h

/-- White space after a text does not change a lexeme that is no fault. -/
theorem scan_append (hafter : Ended after) {c : Char} {cs : List Char} {token? : Option Token}
    (h : (scan c cs).outcome = .ok token?) : scan c (cs ++ after) = (scan c cs).before after := by
  unfold scan at h ⊢
  split at h
  · exact phrase_append h
  · rfl
  · rfl
  · rfl
  · rfl
  · exact weight_append hafter h
  · exact window_append hafter h
  · exact colons_append hafter cs
  · exact word_append hafter _ cs

end Lexeme

/-! ### Tokens before white space -/

namespace Lexes

/-- The tokens of a text before white space come before those of the text after it. -/
theorem append {cs after : List Char} {tokens next : List Token} (h : Lexes cs tokens)
    (hafter : Ended after) (hnext : Lexes after next) : Lexes (cs ++ after) (tokens ++ next) := by
  induction h with
  | nil => exact hnext
  | blank hc _ ih => exact .blank hc ih
  | skip hc hscan _ ih =>
      have happend := Lexeme.scan_append hafter hscan
      rw [List.cons_append]
      refine .skip hc ?_ ?_ <;> rw [happend]
      · exact hscan
      · exact ih
  | token hc hscan _ ih =>
      have happend := Lexeme.scan_append hafter hscan
      rw [List.cons_append, List.cons_append]
      refine .token hc ?_ ?_ <;> rw [happend]
      · exact hscan
      · exact ih

end Lexes

/-! ### Queries before white space -/

namespace Query

/-- Two texts that are queries, with white space between them, are the query that has the clauses of
the first and then those of the second; and compiling it is compiling the first and then the
second. -/
theorem parse_append_blanks {first second blanks : String} {query next : Query}
    (hfirst : parse first = .ok query) (hsecond : parse second = .ok next) (hne : blanks ≠ "")
    (hblanks : ∀ c ∈ blanks.toList, Text.isBlank c) :
    ∃ chain, parse (first ++ blanks ++ second) = .ok chain ∧
      chain.clauses = query.clauses ++ next.clauses ∧
      ∀ (collection : Collection) (options : CompileOptions),
        collection.compile chain options =
          (collection.compile query options).compile next options := by
  refine ⟨⟨query.clauses ++ next.clauses⟩, ?_, rfl, ?_⟩
  · obtain ⟨segments, hspells, hlexes⟩ := parse_eq_ok_iff.mp hfirst
    obtain ⟨segments', hspells', hlexes'⟩ := parse_eq_ok_iff.mp hsecond
    refine parse_eq_ok_iff.mpr ⟨segments ++ segments', List.rel_append hspells hspells', ?_⟩
    have hended : Ended (blanks.toList ++ second.toList) := by
      intro c hc
      rw [List.head?_append_of_ne_nil _ (by simpa using hne)] at hc
      exact Text.isSolid_eq_false_iff.mpr (hblanks c (List.mem_of_mem_head? hc))
    rw [List.flatten_append, String.toList_append, String.toList_append, List.append_assoc]
    exact hlexes.append hended (.blanks hblanks hlexes')
  · intro collection options
    rw [Collection.compile, matchTerms, List.filterMap_append, Collection.addAll_append]
    rfl

/-- A stray colon at the end of the first text is no field for the term of the second. -/
theorem parse_append_blanks_stray_colon :
    ∃ query next chain, parse "+title:{a b} :" = .ok query ∧ parse "-c d:e" = .ok next ∧
      parse "+title:{a b} :\t\u3000-c d:e" = .ok chain ∧
      chain.clauses = query.clauses ++ next.clauses ∧ chain.clauses.length = 3 := by
  have hfirst : parse "+title:{a b} :" =
      .ok ⟨[.required true (.field "title" (.ofPattern (.synonym ["a", "b"])))]⟩ := by
    cbv
  have hsecond : parse "-c d:e" =
      .ok ⟨[.required false (.ofPattern (.term "c")), .field "d" (.ofPattern (.term "e"))]⟩ := by
    cbv
  have hblanks : ∀ c ∈ "\t\u3000".toList, Text.isBlank c := by
    rw [show "\t\u3000".toList = ['\t', '\u3000'] from rfl]
    exact List.forall_mem_cons.mpr ⟨rfl, List.forall_mem_singleton.mpr rfl⟩
  obtain ⟨chain, hchain, hclauses, -⟩ :=
    parse_append_blanks hfirst hsecond (by decide) hblanks
  refine ⟨_, _, chain, hfirst, hsecond, ?_, hclauses, by rw [hclauses]; rfl⟩
  simpa using hchain

end Query

end Retrieval
