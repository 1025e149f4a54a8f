import Retrieval.Query.Compile

/-!
Clauses in layers. A clause is a pattern under requirements and fields, in any number and order.
Compiling goes through them from the outside in and keeps the requirement that it meets first and
the field that it meets last. So what becomes of a clause is decided by these two and by its
pattern, however the layers of the two kinds are mixed.
-/

namespace Retrieval

/-! ### Patterns -/

/-- The shapes that a pattern can take: those of its kind and with its window. -/
inductive Pattern.Shapes : Pattern → Shape → Prop
  | term (text term : String) : Shapes (.term text) (.term term)
  | synonym (members terms : List String) : Shapes (.synonym members) (.synonym terms)
  | phrase (members terms : List String) : Shapes (.phrase members none) (.phrase terms)
  | window (members terms : List String) (size : Nat) :
      Shapes (.phrase members (some size)) (.window terms size)

section

variable {options : CompileOptions}

theorem CompileOptions.terms_eq_nil_iff (options : CompileOptions) {tokens : List String} :
    options.terms tokens = [] ↔ ∀ token ∈ tokens, token = "" := by
  simp [options.terms_eq]

/-- A pattern has no shape if all its tokens are empty, and only then. -/
theorem Pattern.shape?_eq_none_iff {pattern : Pattern} :
    pattern.shape? options = none ↔ ∀ token ∈ pattern.tokens, token = "" := by
  cases pattern with
  | term text => simp [shape?, tokens]
  | synonym members =>
      rw [tokens, ← options.terms_eq_nil_iff]
      simp [shape?]
  | phrase members window =>
      rw [tokens, ← options.terms_eq_nil_iff]
      cases window <;> simp [shape?]

/-- The shape of a pattern is the one of its kind that is made of its terms. -/
theorem Pattern.shapes_of_shape? {pattern : Pattern} {shape : Shape}
    (h : pattern.shape? options = some shape) :
    pattern.Shapes shape ∧ shape.terms = options.terms pattern.tokens := by
  cases pattern with
  | term text =>
      obtain ⟨htext, rfl⟩ : text ≠ "" ∧ Shape.term (options.term text) = shape := by
        simpa [shape?] using h
      exact ⟨.term .., by simp [Shape.terms, tokens, CompileOptions.terms, htext]⟩
  | synonym members =>
      simp only [shape?, Option.ite_none_left_eq_some, Option.some.injEq] at h
      obtain ⟨-, rfl⟩ := h
      exact ⟨.synonym .., rfl⟩
  | phrase members window =>
      simp only [shape?, Option.ite_none_left_eq_some] at h
      obtain ⟨-, h⟩ := h
      cases window with
      | none =>
          cases h
          exact ⟨.phrase .., rfl⟩
      | some size =>
          cases h
          exact ⟨.window .., rfl⟩

end

/-! ### Layers -/

namespace Clause

/-- The flags of the requirements around the pattern, from the outside in. -/
def flags : Clause → List Bool
  | leaf _ _ => []
  | required flag inner => flag :: inner.flags
  | field _ inner => inner.flags

/-- The names of the fields around the pattern, from the outside in. -/
def fields : Clause → List String
  | leaf _ _ => []
  | required _ inner => inner.fields
  | field name inner => name :: inner.fields

/-- The match term of a clause has the shape of its pattern. It is in the innermost field, else in
that of the options, and under the requirement of the options, else under the outermost one. -/
theorem matchTerm?_eq (clause : Clause) (options : CompileOptions) :
    clause.matchTerm? options = (clause.pattern.shape? options).map fun shape =>
      { operator := ⟨shape, clause.fields.getLast?.or options.field⟩
        weight := clause.weight * options.weight.getD 1
        required := options.required.or clause.flags.head? } := by
  -- Each layer changes the options for the clause inside it, so they are left open.
  induction clause generalizing options with
  | leaf pattern weight =>
      have hrequired : options.required.or none = options.required := Option.or_none
      simp only [matchTerm?, flags, fields, List.head?_nil, hrequired]
      rfl
  | required flag inner ih =>
      have hrequired : (options.required.or (some flag)).or inner.flags.head? =
          options.required.or (some flag) := by
        rw [Option.or_assoc, Option.some_or]
      rw [matchTerm?, ih]
      simp only [hrequired]
      rfl
  | field name inner ih =>
      have hfield : inner.fields.getLast?.or (some name) =
          (name :: inner.fields).getLast?.or options.field := by
        rw [List.getLast?_cons, Option.some_or]
        cases inner.fields.getLast? <;> rfl
      rw [matchTerm?, ih]
      simp only [hfield]
      rfl

end Clause

/-! ### Compiling -/

/-- Compiling a clause without a token that is not empty does nothing. Any other clause is one term
that is added: the shape of its pattern with its tokens in order, the empty ones left out and the
others lowered if the options say so, in the innermost field or else in that of the options, under
the requirement of the options or else under the outermost one, with its weight times that of the
options and without labels. Clauses that differ only in how requirements and fields are mixed
compile alike, and those of a query are compiled one after another. -/
theorem Collection.compile_clause (c : Collection) (clause : Clause) (options : CompileOptions) :
    ((∀ token ∈ clause.tokens, token = "") → c.compile ⟨[clause]⟩ options = c) ∧
    ((∃ token ∈ clause.tokens, token ≠ "") →
      ∃ shape, clause.pattern.Shapes shape ∧
        shape.terms = (clause.tokens.filter (· ≠ "")).map
          (if options.lowercase then Text.lowercase else id) ∧
        c.compile ⟨[clause]⟩ options = c.add
          { operator := ⟨shape, clause.fields.getLast?.or options.field⟩
            weight := clause.weight * options.weight.getD 1
            required := options.required.or clause.flags.head?
            tags := ∅
            models := []
            statistics := none }) ∧
    (∀ other : Clause, other.pattern = clause.pattern → other.weight = clause.weight →
      other.flags = clause.flags → other.fields = clause.fields →
      c.compile ⟨[other]⟩ options = c.compile ⟨[clause]⟩ options) ∧
    ∀ clauses : List Clause, c.compile ⟨clause :: clauses⟩ options =
      (c.compile ⟨[clause]⟩ options).compile ⟨clauses⟩ options := by
  refine ⟨fun hempty => ?_, fun hsome => ?_, ?_, fun clauses => ?_⟩
  · have hshape : clause.pattern.shape? options = none := Pattern.shape?_eq_none_iff.mpr hempty
    simp [compile, Query.matchTerms, clause.matchTerm?_eq options, hshape]
  · cases hshape : clause.pattern.shape? options with
    | none =>
        obtain ⟨token, htoken, hne⟩ := hsome
        exact absurd (Pattern.shape?_eq_none_iff.mp hshape token htoken) hne
    | some shape =>
        obtain ⟨hshapes, hterms⟩ := Pattern.shapes_of_shape? hshape
        refine ⟨shape, hshapes, hterms.trans (options.terms_eq _), ?_⟩
        simp [compile, Query.matchTerms, clause.matchTerm?_eq options, hshape]
  · intro other hpattern hweight hflags hfields
    have hmatch : other.matchTerm? options = clause.matchTerm? options := by
      rw [other.matchTerm?_eq, clause.matchTerm?_eq, hpattern, hweight, hflags, hfields]
    simp only [compile, Query.matchTerms, List.filterMap_cons, hmatch]
  · exact c.compile_append ⟨[clause]⟩ ⟨clauses⟩ options

/-- A window with an empty token under two requirements and two fields, a group that is not lowered,
and a phrase of nothing. -/
theorem Collection.compile_clause_three_patterns :
    empty.compile ⟨[.required false (.field "body" (.required true (.field "title"
        (.leaf (.phrase ["Ab", "", "ÉT"] (some 4)) 2))))]⟩
        { field := some "all", weight := some 0.5 } =
      empty.add
        { operator := ⟨.window ["ab", "ét"] 4, some "title"⟩
          weight := 2 * 0.5
          required := some false
          tags := ∅
          models := []
          statistics := none } ∧
    empty.compile ⟨[.required false (.leaf (.synonym ["", "Ab"]) 2)]⟩
        { field := some "all", required := some true, lowercase := false } =
      empty.add
        { operator := ⟨.synonym ["Ab"], some "all"⟩
          weight := 2 * 1
          required := some true
          tags := ∅
          models := []
          statistics := none } ∧
    empty.compile ⟨[.field "title" (.leaf (.phrase ["", ""] none) 2)]⟩ {} = empty := by
  refine ⟨?_, ?_, ?_⟩
  · obtain ⟨-, hadd, -⟩ := compile_clause empty (.required false (.field "body" (.required true
      (.field "title" (.leaf (.phrase ["Ab", "", "ÉT"] (some 4)) 2)))))
      { field := some "all", weight := some 0.5 }
    obtain ⟨_, hshapes, hterms, hcompile⟩ := hadd ⟨"Ab", List.mem_cons_self, by decide⟩
    cases hshapes with
    | window members terms size =>
        obtain rfl : terms = ["ab", "ét"] := hterms.trans (by decide +kernel)
        exact hcompile
  · obtain ⟨-, hadd, -⟩ := compile_clause empty (.required false (.leaf (.synonym ["", "Ab"]) 2))
      { field := some "all", required := some true, lowercase := false }
    have hmem : "Ab" ∈ ["", "Ab"] := by decide
    obtain ⟨_, hshapes, hterms, hcompile⟩ := hadd ⟨"Ab", hmem, by decide⟩
    cases hshapes with
    | synonym members terms =>
        obtain rfl : terms = ["Ab"] := hterms.trans (by decide +kernel)
        exact hcompile
  · obtain ⟨hnothing, -⟩ :=
      compile_clause empty (.field "title" (.leaf (.phrase ["", ""] none) 2)) {}
    exact hnothing (by decide)

end Retrieval
