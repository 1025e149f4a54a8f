import Retrieval.Proofs.Query.Places

/-!
Where the failures of a query lie in its text. A fault in the lexemes lies at the lexeme that has
it. A fault in the tokens lies at a token, at a group of them or at the end of the text; the tokens
that are left while a query is read keep their places, and a group ends behind its brace, so these
places are parts of the text as well.
-/

namespace Retrieval

/-- A failure that lies at a position of a text. It comes with the text, and with a part of it that
begins at the position, unless that is the end of the text. -/
structure QueryError.LiesAt (error : QueryError) (text : String) (position : Nat) : Prop where
  query_eq : error.query = some text
  position_eq : error.position? = some position
  le : position ≤ Text.byteSize text.toList
  boundary : Text.IsBoundary text.toList position
  fragment_eq_none : error.fragment? = none ↔ position = Text.byteSize text.toList
  fragment : ∀ fragment ∈ error.fragment?, fragment ≠ "" ∧
    Text.substring position (position + Text.byteSize fragment.toList) text = some fragment

namespace QueryError.LiesAt

variable {error : QueryError} {text : String}

/-- A failure that shows a span of a text lies at its beginning. -/
theorem of_span {span : Span} (h : span.Within text) (hquery : error.query = some text)
    (hposition : error.position? = some span.start)
    (hfragment : error.fragment? = Text.substring span.start span.stop text) :
    error.LiesAt text span.start := by
  obtain ⟨part, hpart, hstop⟩ := h.start.exists_substring h.stop (Nat.le_of_lt h.lt)
  have hlt := h.lt
  have hle := h.stop.le
  rw [hpart] at hfragment
  refine ⟨hquery, hposition, by omega, h.start, ?_, ?_⟩ <;> rw [hfragment]
  · exact iff_of_false nofun (by omega)
  · rintro _ ⟨⟩
    refine ⟨?_, by rwa [hstop]⟩
    rintro rfl
    rw [String.toList_empty, Text.byteSize_nil] at hstop
    omega

/-- A failure that shows nothing lies at the end of a text. -/
theorem of_end (hquery : error.query = some text)
    (hposition : error.position? = some (Text.byteSize text.toList))
    (hfragment : error.fragment? = none) :
    error.LiesAt text (Text.byteSize text.toList) := by
  refine ⟨hquery, hposition, Nat.le_refl _, ?_, iff_of_true hfragment rfl, ?_⟩
  · exact ⟨text.toList, [], (List.append_nil _).symm, rfl⟩
  · rw [hfragment]
    exact nofun

end QueryError.LiesAt

/-! ### Faults in lexemes -/

/-- A fault in the lexemes lies at what the faulty lexeme took from the text. -/
theorem exists_holds_of_locate {position : Nat} {cs : List Char} {fault : LexFault} {span : Span}
    (h : locate position cs = .error (fault, span)) :
    ∃ part, span.Holds position cs part ∧ part ≠ [] := by
  fun_induction locate position cs with
  | case1 => cases h
  | case2 position cs c rest hcons lexeme start span' fault' hscan =>
      obtain ⟨-, rfl⟩ := Prod.mk.inj (Except.error.inj h)
      refine ⟨_, ?_, Lexeme.text_ne_nil c rest⟩
      have hholds := Span.holds_append position (cs.takeWhile Text.isBlank) lexeme.text lexeme.rest
      rwa [← Lexeme.eq_append_of_dropWhile hcons] at hholds
  | case3 position cs c rest hcons lexeme start span' hscan =>
      rename_i ih
      obtain ⟨part, hholds, hpart⟩ := ih h
      rw [Lexeme.eq_append_of_dropWhile hcons]
      exact ⟨part, hholds.later.later, hpart⟩
  | case4 position cs c rest hcons lexeme start span' token hscan =>
      rename_i ih
      obtain ⟨part, hholds, hpart⟩ := ih (Except.map_eq_error_iff.mp h)
      rw [Lexeme.eq_append_of_dropWhile hcons]
      exact ⟨part, hholds.later.later, hpart⟩

theorem LexError.within {text : String} {failure : LexError}
    (h : locateTokens text = .error failure) :
    failure.input = text ∧ failure.span.Within text := by
  unfold locateTokens at h
  split at h
  · cases h
  · rename_i fault span hlocate
    cases h
    obtain ⟨part, hholds, hpart⟩ := exists_holds_of_locate hlocate
    exact ⟨rfl, hholds.within hpart⟩

/-! ### Faults in tokens -/

def Mismatch.Within (text : String) (mismatch : Mismatch) : Prop :=
  ∀ span ∈ mismatch.place, span.Within text

namespace Placed

variable {text : String} {tokens : List Located}

theorem of_append {segment : List Located} (h : Placed text (segment ++ tokens)) :
    Placed text tokens where
  within located hmem := h.within located (List.mem_append_right _ hmem)
  pairwise := (List.pairwise_append.mp h.pairwise).2.1

theorem tail {head : Located} (h : Placed text (head :: tokens)) : Placed text tokens :=
  @of_append text tokens [head] h

/-- From the beginning of a token to the end of a later one. -/
theorem within_range {head last : Located} (h : Placed text (head :: tokens))
    (hmem : last ∈ head :: tokens) : Span.Within text ⟨head.span.start, last.span.stop⟩ := by
  have hhead := h.within head List.mem_cons_self
  have hlast := h.within last hmem
  refine ⟨hhead.start, hlast.stop, ?_⟩
  obtain rfl | hmem := List.mem_cons.mp hmem
  · exact hhead.lt
  · have hle := (List.pairwise_cons.mp h.pairwise).1 last hmem
    exact Nat.lt_trans (Nat.lt_of_lt_of_le hhead.lt hle) hlast.lt

end Placed

namespace Mismatch

variable {text : String} {fault : ParseFault}

theorem within_here {tokens : List Located} (h : Placed text tokens) :
    (here fault tokens).Within text := by
  intro span hspan
  obtain ⟨located, hmem, rfl⟩ := Option.map_eq_some_iff.mp hspan
  exact h.within located (List.mem_of_mem_head? hmem)

theorem within_some {span : Span} (h : span.Within text) : Within text ⟨fault, some span⟩ := by
  rintro _ ⟨⟩
  exact h

end Mismatch

namespace Clause

variable {text : String} {tokens : List Located} {mismatch : Mismatch}

theorem within_of_takePhrase {head : Located} {content : String}
    (hplaced : Placed text (head :: tokens))
    (h : takePhrase head content tokens = .error mismatch) : mismatch.Within text := by
  unfold takePhrase at h
  split at h
  · cases h
    exact Mismatch.within_some (hplaced.within head List.mem_cons_self)
  · split at h
    · cases h
    · split at h <;> cases h

theorem within_of_takeGroup {brace : Located} (hplaced : Placed text (brace :: tokens))
    (h : takeGroup brace tokens = .error mismatch) : mismatch.Within text := by
  simp only [takeGroup] at h
  split at h
  · rename_i span rest hdrop
    split at h
    · cases h
      have hmem : ⟨.closeBrace, span⟩ ∈ tokens :=
        (List.dropWhile_sublist _).subset (hdrop ▸ List.mem_cons_self)
      exact Mismatch.within_some (hplaced.within_range (List.mem_cons_of_mem brace hmem))
    · cases h
  · cases h
    refine Mismatch.within_some (hplaced.within_range ?_)
    generalize hmembers : tokens.takeWhile (fun token => token.token.termText?.isSome) = members
    cases hlast : members.getLast? with
    | none => exact List.mem_cons_self
    | some last =>
        have hmem := List.mem_of_getLast? hlast
        rw [← hmembers] at hmem
        exact List.mem_cons_of_mem _ ((List.takeWhile_sublist _).subset hmem)

theorem within_of_takeOperand (hplaced : Placed text tokens)
    (h : takeOperand tokens = .error mismatch) : mismatch.Within text := by
  unfold takeOperand at h
  split at h
  · cases h
    exact Mismatch.within_here hplaced
  · rename_i head rest
    have hhead := hplaced.within head List.mem_cons_self
    split at h
    · cases h
    · exact within_of_takePhrase hplaced h
    · exact within_of_takeGroup hplaced h
    all_goals
      cases h
      exact Mismatch.within_some hhead

theorem within_of_takeFielded (hplaced : Placed text tokens)
    (h : takeFielded tokens = .error mismatch) : mismatch.Within text := by
  unfold takeFielded at h
  split at h
  · split at h
    · exact within_of_takeOperand hplaced.tail (Except.map_eq_error_iff.mp h)
    · cases h
      exact Mismatch.within_here hplaced.tail
  · exact within_of_takeOperand hplaced (Except.map_eq_error_iff.mp h)

theorem within_of_takeWeighted (hplaced : Placed text tokens)
    (h : takeWeighted tokens = .error mismatch) : mismatch.Within text :=
  within_of_takeFielded hplaced (Except.map_eq_error_iff.mp h)

theorem within_of_takeClause (hplaced : Placed text tokens)
    (h : takeClause tokens = .error mismatch) : mismatch.Within text := by
  unfold takeClause at h
  split at h
  · exact within_of_takeWeighted hplaced.tail (Except.map_eq_error_iff.mp h)
  · exact within_of_takeWeighted hplaced.tail (Except.map_eq_error_iff.mp h)
  · exact within_of_takeWeighted hplaced h

/-- Tokens with places in a text have their mismatches there. -/
theorem within_of_ofTokens (hplaced : Placed text tokens)
    (h : ofTokens tokens = .error mismatch) : mismatch.Within text := by
  fun_induction ofTokens tokens with
  | case1 => cases h
  | case2 tokens hne mismatch' htake =>
      cases h
      exact within_of_takeClause hplaced htake
  | case3 tokens hne clause rest htake ih =>
      obtain ⟨segment, rfl, -⟩ := spells_of_takeClause htake
      exact ih hplaced.of_append (Except.map_eq_error_iff.mp h)

end Clause

/-! ### Failures of queries -/

theorem Mismatch.liesAt {text : String} {mismatch : Mismatch} (h : mismatch.Within text) :
    ∃ position, ((QueryError.ofParseError (mismatch.toParseError text)).withQuery text).LiesAt
      text position := by
  obtain ⟨fault, place⟩ := mismatch
  cases place with
  | none => exact ⟨_, .of_end rfl rfl rfl⟩
  | some span => exact ⟨_, .of_span (h span rfl) rfl rfl rfl⟩

/-- A text is no query because it cannot be read as tokens, or because its tokens are no query. -/
theorem Query.failure_of_parse {text : String} {error : QueryError}
    (h : parse text = .error error) :
    (∃ failure, locateTokens text = .error failure ∧ error = .ofLexError failure) ∨
    ∃ tokens mismatch, locateTokens text = .ok tokens ∧
      Clause.ofTokens tokens = .error mismatch ∧
      error = (QueryError.ofParseError (mismatch.toParseError text)).withQuery text := by
  unfold parse at h
  split at h
  · rename_i failure hfailure
    exact .inl ⟨failure, hfailure, (Except.error.inj h).symm⟩
  · rename_i tokens htokens
    split at h
    · cases h
    · rename_i mismatch hmismatch
      exact .inr ⟨tokens, mismatch, htokens, hmismatch, (Except.error.inj h).symm⟩

theorem Query.liesAt_of_parse {text : String} {error : QueryError} (h : parse text = .error error) :
    ∃ position, error.LiesAt text position := by
  obtain ⟨failure, hfailure, rfl⟩ | ⟨tokens, mismatch, htokens, hmismatch, rfl⟩ :=
    failure_of_parse h
  · obtain ⟨rfl, hwithin⟩ := LexError.within hfailure
    exact ⟨_, .of_span hwithin rfl rfl rfl⟩
  · have hplaced := (Cut.of_locate (locate_of_locateTokens htokens)).accounts.toPlaced
    exact Mismatch.liesAt (Clause.within_of_ofTokens hplaced hmismatch)

/-- Every failure to read a query lies at a position of its text. A failure of the lexemes is told
alike as a failure of the query and as a fault in its syntax. -/
theorem Query.exists_liesAt {text : String} {error : QueryError} (h : parse text = .error error) :
    (∃ position, error.LiesAt text position) ∧
    ∀ failure, locateTokens text = .error failure → error = .ofLexError failure ∧
      failure.toParseError.fault.message = error.message ∧
      failure.toParseError.position = error.position? ∧
      failure.toParseError.fragment = error.fragment? := by
  refine ⟨liesAt_of_parse h, fun failure hfailure => ?_⟩
  obtain ⟨_, hother, rfl⟩ | ⟨tokens, _, htokens, -⟩ := failure_of_parse h
  · cases hother.symm.trans hfailure
    exact ⟨rfl, rfl, rfl, rfl⟩
  · cases htokens.symm.trans hfailure

/-- A fault in a lexeme, one in a group, and one at the end of the text, behind characters of two
bytes. -/
theorem Query.exists_liesAt_three_failures :
    (∃ error, parse "é \"ü" = .error error ∧ error.LiesAt "é \"ü" 3 ∧
      error.fragment? = some "\"ü") ∧
    (∃ error, parse "é \x7bü x" = .error error ∧ error.LiesAt "é \x7bü x" 3 ∧
      error.fragment? = some "\x7bü x") ∧
    ∃ error, parse "é ü:" = .error error ∧ error.LiesAt "é ü:" 6 ∧ error.fragment? = none := by
  have hquote : parse "é \"ü" = .error ⟨.lex .unclosedQuote ⟨3, 6⟩, some "é \"ü"⟩ := by
    cbv
  have hgroup : parse "é \x7bü x" =
      .error ⟨.parse .unclosedGroup (some 3) (some "\x7bü x"), some "é \x7bü x"⟩ := by
    cbv
  have hend : parse "é ü:" =
      .error ⟨.parse (.missingOperand "ü") (some 6) none, some "é ü:"⟩ := by
    cbv
  have hplace : ∀ {text : String} {error : QueryError} {position : Nat},
      parse text = .error error → error.position? = some position → error.LiesAt text position := by
    intro text error position hparse hposition
    obtain ⟨⟨place, hlies⟩, -⟩ := exists_liesAt hparse
    rw [hlies.position_eq] at hposition
    cases hposition
    exact hlies
  exact ⟨⟨_, hquote, hplace hquote rfl, by cbv⟩, ⟨_, hgroup, hplace hgroup rfl, rfl⟩,
    ⟨_, hend, hplace hend rfl, rfl⟩⟩

end Retrieval
