import Mathlib
import Retrieval.Proofs.Corpus.Contents
import Retrieval.Proofs.Match.Lookup
import Retrieval.Proofs.Query.Layers
import Retrieval.Query.Processor

/-!
When a query is empty. A clause is kept by a pipeline if it has a token left, and it gives a match
term if it has a token that is not empty. A pipeline never leaves an empty token, so every clause
that is kept gives its match term, and the match terms of a processed query are empty when the query
is.
-/

namespace Retrieval

/-! ### Clauses that are kept -/

section

variable {pipeline : Pipeline}

structure Clause.IsFilled (clause : Clause) : Prop where
  ne_nil : clause.tokens ≠ []
  ne_empty : ∀ token ∈ clause.tokens, token ≠ ""

theorem Pattern.tokens_of_normalise? {pattern kept : Pattern}
    (h : pattern.normalise? pipeline = some kept) :
    kept.tokens = pattern.tokens.filterMap pipeline.term? ∧ kept.tokens ≠ [] := by
  cases pattern with
  | term text =>
      obtain ⟨term, hterm, rfl⟩ := Option.map_eq_some_iff.mp h
      exact ⟨by simp [tokens, hterm], List.cons_ne_nil _ _⟩
  | synonym terms =>
      simp only [normalise?] at h
      split at h
      · cases h
      · rename_i hne
        cases h
        exact ⟨rfl, fun hnil => hne (List.isEmpty_iff.mpr hnil)⟩
  | phrase terms window =>
      simp only [normalise?] at h
      split at h
      · cases h
      · rename_i hne
        cases h
        exact ⟨rfl, fun hnil => hne (List.isEmpty_iff.mpr hnil)⟩

/-- The tokens of a clause that is kept are the terms that the pipeline makes of its tokens. -/
theorem Clause.tokens_of_normalise? {clause kept : Clause}
    (h : clause.normalise? pipeline = some kept) :
    kept.tokens = clause.tokens.filterMap pipeline.term? ∧ kept.tokens ≠ [] := by
  induction clause generalizing kept with
  | leaf pattern weight =>
      obtain ⟨normal, hnormal, rfl⟩ := Option.map_eq_some_iff.mp h
      exact Pattern.tokens_of_normalise? hnormal
  | required flag inner ih =>
      obtain ⟨normal, hnormal, rfl⟩ := Option.map_eq_some_iff.mp h
      exact (ih hnormal :)
  | field name inner ih =>
      obtain ⟨normal, hnormal, rfl⟩ := Option.map_eq_some_iff.mp h
      exact (ih hnormal :)

theorem Clause.isFilled_of_normalise? {clause kept : Clause}
    (h : clause.normalise? pipeline = some kept) : kept.IsFilled := by
  obtain ⟨htokens, hne⟩ := tokens_of_normalise? h
  refine ⟨hne, fun token hmem => ?_⟩
  rw [htokens] at hmem
  obtain ⟨word, -, hterm⟩ := List.mem_filterMap.mp hmem
  exact (Pipeline.term?_eq_some_iff.mp hterm).2

end

/-! ### Clauses that give match terms -/

/-- A clause gives a match term if it has a token that is not empty, and only then. -/
theorem Clause.isSome_matchTerm?_iff (clause : Clause) (options : CompileOptions) :
    (clause.matchTerm? options).isSome ↔ ∃ token ∈ clause.tokens, token ≠ "" := by
  rw [matchTerm?_eq, Option.isSome_map, Option.isSome_iff_ne_none, ne_eq,
    Pattern.shape?_eq_none_iff]
  push Not
  rfl

/-- Clauses with tokens, none of which is empty, give one match term each. -/
theorem Query.forall₂_matchTerms {query : Query} (h : ∀ clause ∈ query.clauses, clause.IsFilled)
    (options : CompileOptions) :
    List.Forall₂ (fun clause term => clause.matchTerm? options = some term) query.clauses
      (query.matchTerms options) := by
  obtain ⟨clauses⟩ := query
  change List.Forall₂ _ clauses (clauses.filterMap (Clause.matchTerm? options))
  induction clauses with
  | nil => exact .nil
  | cons clause clauses ih =>
      obtain ⟨hclause, hclauses⟩ := List.forall_mem_cons.mp h
      obtain ⟨token, htoken⟩ := List.exists_mem_of_ne_nil _ hclause.ne_nil
      have hsome := (clause.isSome_matchTerm?_iff options).mpr
        ⟨token, htoken, hclause.ne_empty token htoken⟩
      obtain ⟨term, hterm⟩ := Option.isSome_iff_exists.mp hsome
      rw [List.filterMap_cons_some hterm]
      exact .cons hterm (ih hclauses)

/-! ### Collections -/

theorem Collection.isEmpty_add {c : Collection} (h : c.Indexed) (term : MatchTerm) :
    (c.add term).isEmpty = false := by
  unfold add
  split
  · rename_i position hposition
    have hlength := h.lt_length hposition
    rw [isEmpty, List.isEmpty_eq_false_iff, ← List.length_pos_iff, List.length_modify]
    omega
  · simp [isEmpty]

theorem Collection.isEmpty_addAll {c : Collection} (h : c.Indexed) (terms : List MatchTerm) :
    (c.addAll terms).isEmpty = (c.isEmpty && terms.isEmpty) := by
  induction terms generalizing c with
  | nil => rw [addAll_nil, List.isEmpty_nil, Bool.and_true]
  | cons term terms ih =>
      rw [addAll_cons, ih (h.add term), isEmpty_add h, List.isEmpty_cons, Bool.and_false,
        Bool.false_and]

/-! ### Processed queries -/

namespace Processor

def options (processor : Processor) : CompileOptions :=
  { lowercase := processor.lowercase }

/-- What a processed query is made of: its clauses have tokens, none of which is empty, and its
terms are one match term for each clause, added in order. -/
structure Compiled (processor : Processor) (processed : ProcessedQuery) : Prop where
  isFilled : ∀ clause ∈ processed.query.clauses, clause.IsFilled
  adds : ∃ adds : List MatchTerm,
    List.Forall₂ (fun clause term => clause.matchTerm? processor.options = some term)
      processed.query.clauses adds ∧
    processed.terms = Collection.addAll { queryId := processed.controls["qid"]? } adds

theorem compiled_processQuery (processor : Processor) (query : Query) :
    processor.Compiled (processor.processQuery query) := by
  have hfilled : ∀ clause ∈ (processor.processQuery query).query.clauses, clause.IsFilled := by
    intro clause hmem
    obtain ⟨_, -, hkept⟩ := List.mem_filterMap.mp hmem
    exact Clause.isFilled_of_normalise? hkept
  exact ⟨hfilled, _, Query.forall₂_matchTerms hfilled processor.options, rfl⟩

theorem Compiled.isEmpty_terms {processor : Processor} {processed : ProcessedQuery}
    (h : processor.Compiled processed) : processed.terms.isEmpty = processed.query.isEmpty := by
  obtain ⟨adds, hadds, hterms⟩ := h.adds
  have hindexed : Collection.Indexed { queryId := processed.controls["qid"]? } :=
    Collection.locates_empty
  rw [hterms, Collection.isEmpty_addAll hindexed, Query.isEmpty]
  generalize processed.query.clauses = clauses at hadds
  cases hadds <;> rfl

/-- A text that is a query is processed to clauses with one match term each, so the terms are empty
when the query is. A processor that rejects empty queries fails for just these texts, and agrees
with one that accepts them on all others. -/
theorem process_of_parse {text : String} {query : Query} (h : Query.parse text = .ok query)
    (processor : Processor) :
    ∃ processed, { processor with rejectEmpty := false }.process text = .ok processed ∧
      processor.Compiled processed ∧ processed.terms.isEmpty = processed.query.isEmpty ∧
      { processor with rejectEmpty := true }.process text =
        if processed.terms.isEmpty then .error (.ofEmpty text) else .ok processed := by
  have hcompiled := compiled_processQuery processor query
  refine ⟨processor.processQuery query, ?_, hcompiled, hcompiled.isEmpty_terms, ?_⟩
  · rw [process, h]
    rfl
  · rw [process, h, hcompiled.isEmpty_terms]
    rfl

/-- A stage that makes one word empty and discards another: of the first text nothing is left, of
the second one term of a group. -/
theorem process_of_parse_discarded :
    let stage : Stage := ⟨"discard", fun word =>
      if word = "the" then some "" else if word = "of" then none else some word⟩
    let processor : Processor := { pipeline := ⟨[stage]⟩ }
    let rejecting : Processor := { processor with rejectEmpty := true }
    (∃ processed, processor.process "+the {of}" = .ok processed ∧ processed.terms.isEmpty ∧
      rejecting.process "+the {of}" = .error (.ofEmpty "+the {of}")) ∧
    ∃ processed, processor.process "+{the zebra} of" = .ok processed ∧
      processed.terms.isEmpty = false ∧ rejecting.process "+{the zebra} of" = .ok processed := by
  intro stage processor rejecting
  have hnone : Query.parse "+the {of}" =
      .ok ⟨[.required true (.ofPattern (.term "the")), .ofPattern (.synonym ["of"])]⟩ := by
    cbv
  have hsome : Query.parse "+{the zebra} of" =
      .ok ⟨[.required true (.ofPattern (.synonym ["the", "zebra"])), .ofPattern (.term "of")]⟩ := by
    cbv
  obtain ⟨first, hfirst, -, hempty, hreject⟩ := process_of_parse hnone processor
  obtain ⟨second, hsecond, -, hempty', hreject'⟩ := process_of_parse hsome processor
  have hprocess : ∀ {text : String} {query : Query} {processed : ProcessedQuery},
      Query.parse text = .ok query → processor.process text = .ok processed →
      processor.processQuery query = processed := by
    intro text query processed hparse hprocessed
    rw [process, hparse] at hprocessed
    exact Except.ok.inj hprocessed
  have hleft : first.terms.isEmpty := by
    rw [hempty, ← hprocess hnone hfirst]
    decide
  have hright : second.terms.isEmpty = false := by
    rw [hempty', ← hprocess hsome hsecond]
    decide
  rw [if_pos hleft] at hreject
  rw [hright] at hreject'
  exact ⟨⟨first, hfirst, hleft, hreject⟩, ⟨second, hsecond, hright, hreject'⟩⟩

end Processor

end Retrieval
