import Retrieval.Proofs.Analysis.Chains
import Retrieval.Proofs.Query.Emptiness

/-!
Normalising queries. One chain of stages after another comes to the same as the two chains in one.
What could tell them apart is a token that the first chain empties: it is dropped before the second
chain begins, while in the longer chain it runs on. But no stage that comes with the engine makes
something of an empty token, so it is dropped there as well. For the same reason it does not matter
whether tokens are lowered by a stage, before a query is compiled, or by the compiler.
-/

namespace Retrieval

/-! ### Empty tokens -/

theorem Builtin.eq_empty_of_process {builtin : Builtin} {term : String}
    (h : builtin.process "" = some term) : term = "" := by
  cases builtin with
  | lowercase =>
      cases h
      rfl
  | stemmer =>
      cases h
      rfl
  | stopwords list =>
      simp only [process, Option.ite_none_left_eq_some, Option.some.injEq] at h
      exact h.2.symm
  | removeLong limit =>
      simp only [process, Option.ite_none_left_eq_some, Option.some.injEq] at h
      exact h.2.symm

namespace Pipeline

theorem eq_empty_of_process {builtins : List Builtin} {term : String}
    (h : (ofBuiltins builtins).process "" = some term) : term = "" := by
  induction builtins with
  | nil =>
      cases h
      rfl
  | cons builtin builtins ih =>
      obtain ⟨next, hnext, hterm⟩ := Option.bind_eq_some_iff.mp h
      obtain rfl := Builtin.eq_empty_of_process hnext
      exact ih hterm

/-- Nothing comes of an empty token. -/
theorem term?_empty (builtins : List Builtin) : (ofBuiltins builtins).term? "" = none := by
  rw [term?, Option.filter_eq_none_iff]
  intro term hterm
  rw [eq_empty_of_process hterm]
  decide

/-- The terms of two chains in one are the terms that the second chain makes of those of the first
one. -/
theorem term?_append (first : Pipeline) (builtins : List Builtin) (token : String) :
    (first ++ ofBuiltins builtins).term? token =
      (first.term? token).bind (ofBuiltins builtins).term? := by
  unfold term?
  rw [process_append]
  cases first.process token with
  | none => rfl
  | some term =>
      by_cases hterm : term = ""
      · subst hterm
        exact term?_empty builtins
      · rw [Option.filter_some_pos (by simpa using hterm)]
        rfl

theorem term?_lowercase (token : String) :
    (ofBuiltins [.lowercase]).term? token =
      if token.isEmpty then none else some (Text.lowercase token) := by
  by_cases htoken : token = ""
  · subst htoken
    exact term?_empty _
  · have hterm : (Text.lowercase token).isEmpty = false := by
      simpa using Text.lowercase_ne_empty htoken
    rw [if_neg (by simpa using htoken)]
    change (some (Text.lowercase token)).filter _ = _
    rw [Option.filter_some_pos (by simpa using hterm)]

end Pipeline

/-! ### One chain after another -/

section

variable (first : Pipeline) (builtins : List Builtin)

theorem Pattern.normalise?_append (pattern : Pattern) :
    (pattern.normalise? first).bind (normalise? (.ofBuiltins builtins)) =
      pattern.normalise? (first ++ .ofBuiltins builtins) := by
  have hterms : ∀ terms : List String,
      (terms.filterMap first.term?).filterMap (Pipeline.ofBuiltins builtins).term? =
        terms.filterMap (first ++ .ofBuiltins builtins).term? := by
    intro terms
    simp only [List.filterMap_filterMap, Pipeline.term?_append]
  cases pattern with
  | term text =>
      rw [normalise?, normalise?, Pipeline.term?_append, Option.bind_map, Option.map_bind]
      rfl
  | synonym terms =>
      simp only [normalise?, ← hterms]
      cases terms.filterMap first.term? <;> rfl
  | phrase terms window =>
      simp only [normalise?, ← hterms]
      cases terms.filterMap first.term? <;> rfl

theorem Clause.normalise?_append (clause : Clause) :
    (clause.normalise? first).bind (normalise? (.ofBuiltins builtins)) =
      clause.normalise? (first ++ .ofBuiltins builtins) := by
  induction clause with
  | leaf pattern weight =>
      rw [normalise?, normalise?, ← pattern.normalise?_append, Option.bind_map, Option.map_bind]
      rfl
  | required flag inner ih =>
      rw [normalise?, normalise?, ← ih, Option.bind_map, Option.map_bind]
      rfl
  | field name inner ih =>
      rw [normalise?, normalise?, ← ih, Option.bind_map, Option.map_bind]
      rfl

theorem Query.normalise_append (query : Query) :
    (query.normalise first).normalise (.ofBuiltins builtins) =
      query.normalise (first ++ .ofBuiltins builtins) := by
  simp only [normalise, List.filterMap_filterMap, Clause.normalise?_append]

end

/-! ### What is kept of a clause -/

/-- Patterns of the same kind and with the same window, whatever their tokens. -/
inductive Pattern.SameFrame : Pattern → Pattern → Prop
  | term (text text' : String) : SameFrame (.term text) (.term text')
  | synonym (terms terms' : List String) : SameFrame (.synonym terms) (.synonym terms')
  | phrase (terms terms' : List String) (window : Option Nat) :
      SameFrame (.phrase terms window) (.phrase terms' window)

/-- Clauses with the same layers and the same weight around patterns that differ in their tokens
only. -/
inductive Clause.SameFrame : Clause → Clause → Prop
  | leaf {pattern pattern' : Pattern} (h : pattern.SameFrame pattern') (weight : Float) :
      SameFrame (.leaf pattern weight) (.leaf pattern' weight)
  | required (flag : Bool) {inner inner' : Clause} (h : SameFrame inner inner') :
      SameFrame (.required flag inner) (.required flag inner')
  | field (name : String) {inner inner' : Clause} (h : SameFrame inner inner') :
      SameFrame (.field name inner) (.field name inner')

section

variable {pipeline : Pipeline}

theorem Pattern.sameFrame_of_normalise? {pattern kept : Pattern}
    (h : pattern.normalise? pipeline = some kept) : pattern.SameFrame kept := by
  cases pattern with
  | term text =>
      obtain ⟨term, -, rfl⟩ := Option.map_eq_some_iff.mp h
      exact .term text term
  | synonym terms =>
      simp only [normalise?, Option.ite_none_left_eq_some, Option.some.injEq] at h
      obtain ⟨-, rfl⟩ := h
      exact .synonym terms _
  | phrase terms window =>
      simp only [normalise?, Option.ite_none_left_eq_some, Option.some.injEq] at h
      obtain ⟨-, rfl⟩ := h
      exact .phrase terms _ window

theorem Clause.sameFrame_of_normalise? {clause kept : Clause}
    (h : clause.normalise? pipeline = some kept) : clause.SameFrame kept := by
  induction clause generalizing kept with
  | leaf pattern weight =>
      obtain ⟨normal, hnormal, rfl⟩ := Option.map_eq_some_iff.mp h
      exact .leaf (Pattern.sameFrame_of_normalise? hnormal) weight
  | required flag inner ih =>
      obtain ⟨normal, hnormal, rfl⟩ := Option.map_eq_some_iff.mp h
      exact .required flag (ih hnormal)
  | field name inner ih =>
      obtain ⟨normal, hnormal, rfl⟩ := Option.map_eq_some_iff.mp h
      exact .field name (ih hnormal)

/-- Whether a pipeline makes a term of one of the tokens. -/
def Clause.survives (pipeline : Pipeline) (clause : Clause) : Bool :=
  clause.tokens.any fun token => (pipeline.term? token).isSome

theorem isEmpty_filterMap_term? (pipeline : Pipeline) (terms : List String) :
    (terms.filterMap pipeline.term?).isEmpty =
      !terms.any fun token => (pipeline.term? token).isSome := by
  induction terms with
  | nil => rfl
  | cons token terms ih =>
      rw [List.filterMap_cons, List.any_cons]
      cases pipeline.term? token with
      | none => exact ih
      | some term => rfl

theorem Pattern.isSome_normalise? (pattern : Pattern) :
    (pattern.normalise? pipeline).isSome =
      pattern.tokens.any fun token => (pipeline.term? token).isSome := by
  cases pattern with
  | term text => simp [normalise?, tokens]
  | synonym terms =>
      rw [normalise?, tokens, isEmpty_filterMap_term?]
      cases terms.any fun token => (pipeline.term? token).isSome <;> rfl
  | phrase terms window =>
      rw [normalise?, tokens, isEmpty_filterMap_term?]
      cases terms.any fun token => (pipeline.term? token).isSome <;> rfl

theorem Clause.isSome_normalise? (clause : Clause) :
    (clause.normalise? pipeline).isSome = clause.survives pipeline := by
  induction clause with
  | leaf pattern weight =>
      rw [normalise?, Option.isSome_map]
      exact pattern.isSome_normalise?
  | required flag inner ih =>
      rw [normalise?, Option.isSome_map]
      exact ih
  | field name inner ih =>
      rw [normalise?, Option.isSome_map]
      exact ih

/-- The clauses that survive are kept in their order, each with its frame and with the terms that
are made of its tokens. -/
theorem Query.forall₂_normalise (pipeline : Pipeline) (query : Query) :
    List.Forall₂ (fun clause kept => clause.SameFrame kept ∧
        kept.tokens = clause.tokens.filterMap pipeline.term?)
      (query.clauses.filter (Clause.survives pipeline)) (query.normalise pipeline).clauses := by
  obtain ⟨clauses⟩ := query
  change List.Forall₂ _ _ (clauses.filterMap (Clause.normalise? pipeline))
  induction clauses with
  | nil => exact .nil
  | cons clause clauses ih =>
      rw [List.filter_cons, ← clause.isSome_normalise?, List.filterMap_cons]
      cases hkept : clause.normalise? pipeline with
      | none => exact ih
      | some kept =>
          exact .cons
            ⟨Clause.sameFrame_of_normalise? hkept, (Clause.tokens_of_normalise? hkept).1⟩ ih

end

/-- Applying one chain of stages and then another leaves the same clauses as applying the longer
chain of both, and tells alike whether any is left. Whatever the chain, a clause is taken out if no
term is made of its tokens; the others keep their order, their layers, kinds, windows and weights,
and have the terms that are made of their tokens. -/
theorem Query.applyPipeline_append (first second : List Builtin) (query : Query) :
    (query.applyPipeline (.ofBuiltins first)).1.applyPipeline (.ofBuiltins second) =
      query.applyPipeline (.ofBuiltins first ++ .ofBuiltins second) ∧
    ∀ pipeline : Pipeline,
      List.Forall₂ (fun clause kept => clause.SameFrame kept ∧
          kept.tokens = clause.tokens.filterMap pipeline.term?)
        (query.clauses.filter (Clause.survives pipeline))
        (query.applyPipeline pipeline).1.clauses := by
  refine ⟨?_, fun pipeline => query.forall₂_normalise pipeline⟩
  simp only [applyPipeline, normalise_append]

/-! ### Lower case before compiling and while compiling -/

section

variable (options : CompileOptions)

/-- The terms that the compiler makes in lower case are those of the stage. -/
theorem CompileOptions.terms_lowercase (tokens : List String) :
    { options with lowercase := true }.terms tokens =
      tokens.filterMap (Pipeline.ofBuiltins [.lowercase]).term? := by
  induction tokens with
  | nil => rfl
  | cons token tokens ih =>
      rw [List.filterMap_cons, Pipeline.term?_lowercase, ← ih, terms, List.filter_cons]
      cases token.isEmpty <;> rfl

/-- The compiler leaves the terms of a pipeline as they are, if it does not lower them. -/
theorem CompileOptions.terms_filterMap (pipeline : Pipeline) (tokens : List String) :
    { options with lowercase := false }.terms (tokens.filterMap pipeline.term?) =
      tokens.filterMap pipeline.term? := by
  have hterms : ∀ term ∈ tokens.filterMap pipeline.term?, (!term.isEmpty) = true := by
    intro term hmem
    obtain ⟨token, -, hterm⟩ := List.mem_filterMap.mp hmem
    simpa using (Pipeline.term?_eq_some_iff.mp hterm).2
  rw [terms, List.filter_eq_self.mpr hterms]
  exact List.map_id' _

theorem Pattern.shape?_lowercase (pattern : Pattern) :
    (pattern.normalise? (.ofBuiltins [.lowercase])).bind
        (shape? { options with lowercase := false }) =
      pattern.shape? { options with lowercase := true } := by
  have hterms := options.terms_filterMap (.ofBuiltins [.lowercase])
  cases pattern with
  | term text =>
      rw [normalise?, shape?, Pipeline.term?_lowercase]
      by_cases htext : text = ""
      · subst htext
        rfl
      · have hlower : (Text.lowercase text).isEmpty = false := by
          simpa using Text.lowercase_ne_empty htext
        simp [htext, shape?, hlower, CompileOptions.term]
  | synonym members =>
      simp only [normalise?, shape?, options.terms_lowercase]
      split
      · rfl
      · rename_i hne
        simp only [Option.bind_some, shape?, hterms, if_neg hne]
  | phrase members window =>
      simp only [normalise?, shape?, options.terms_lowercase]
      split
      · rfl
      · rename_i hne
        simp only [Option.bind_some, shape?, hterms, if_neg hne]

/-- A clause that is lowered by the stage gives the match term that it gives when it is lowered by
the compiler. -/
theorem Clause.matchTerm?_lowercase (clause : Clause) :
    (clause.normalise? (.ofBuiltins [.lowercase])).bind
        (matchTerm? { options with lowercase := false }) =
      clause.matchTerm? { options with lowercase := true } := by
  induction clause generalizing options with
  | leaf pattern weight =>
      rw [normalise?, matchTerm?, ← pattern.shape?_lowercase options, Option.bind_map,
        Option.map_bind]
      rfl
  | required flag inner ih =>
      rw [normalise?, matchTerm?, Option.bind_map]
      exact ih { options with required := options.required.or (some flag) }
  | field name inner ih =>
      rw [normalise?, matchTerm?, Option.bind_map]
      exact ih { options with field := some name }

/-- It makes no difference whether tokens are lowered by the stage before a query is compiled or by
the compiler: every collection comes to be the same. -/
theorem Collection.compile_lowercase (c : Collection) (query : Query) :
    c.compile (query.applyPipeline (.ofBuiltins [.lowercase])).1
        { options with lowercase := false } =
      c.compile query { options with lowercase := true } := by
  have hterms : (query.normalise (.ofBuiltins [.lowercase])).matchTerms
        { options with lowercase := false } =
      query.matchTerms { options with lowercase := true } := by
    simp only [Query.normalise, Query.matchTerms, List.filterMap_filterMap,
      Clause.matchTerm?_lowercase]
  simp only [Query.applyPipeline, compile, hterms]

end

end Retrieval
