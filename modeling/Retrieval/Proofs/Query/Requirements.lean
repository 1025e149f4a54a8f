import Retrieval.Proofs.Query.Emptiness
import Retrieval.Proofs.Query.WellShaped
import Retrieval.Query.Traversal

/-!
Two views of requirements. A search through a query takes a pattern for required if any requirement
around it is one to match, while compiling goes by the outermost requirement alone. The two rules
part ways on requirements inside each other. A clause that was read has at most one requirement, and
there they agree.
-/

namespace Retrieval

def ClauseKind.ofPatterns : List ClauseKind :=
  [.term, .synonym, .phrase]

/-- The pattern in the middle of a clause, with its weight, as a clause of its own. -/
def Clause.core (clause : Clause) : Clause :=
  leaf clause.pattern clause.weight

/-! ### Clauses -/

namespace Clause

variable {clause : Clause} {kind : ClauseKind}

/-- Looking for patterns of a kind, one finds the pattern in the middle. It counts as required if it
is looked for under a requirement to match or has one around it. -/
theorem ofKind_of_mem_ofPatterns (hkind : kind ∈ ClauseKind.ofPatterns) (clause : Clause)
    (onlyRequired under : Bool) :
    clause.ofKind kind onlyRequired under =
      if clause.pattern.kind = kind ∧ (!onlyRequired || (under || clause.flags.any id))
      then [clause.core] else [] := by
  have hrequired : ClauseKind.required ≠ kind := by
    rintro rfl
    exact absurd hkind (by decide)
  have hfield : ClauseKind.field ≠ kind := by
    rintro rfl
    exact absurd hkind (by decide)
  -- Each requirement changes what the clause inside it is under, so that is left open.
  induction clause generalizing under with
  | leaf pattern weight => simp [ofKind, flags, Clause.pattern, core, Clause.weight]
  | required flag inner ih =>
      have hflags : (under || (required flag inner).flags.any id) =
          ((under || flag) || inner.flags.any id) := by
        rw [flags, List.any_cons, id, Bool.or_assoc]
      rw [ofKind, if_neg (fun h => hrequired h.1), ih, hflags]
      rfl
  | field name inner ih =>
      rw [ofKind, if_neg (fun h => hfield h.1), ih]
      rfl

/-- With one requirement at most, there is one to match exactly if the outermost one is. -/
theorem WellShaped.any_flags (h : clause.WellShaped) :
    clause.flags.any id ↔ clause.flags.head? = some true := by
  cases h <;> simp [flags]

end Clause

/-! ### Tokens -/

theorem Pattern.WellShaped.isMember {pattern : Pattern} (h : pattern.WellShaped) :
    ∀ token ∈ pattern.tokens, IsMember token := by
  cases h with
  | term hmember => exact List.forall_mem_singleton.mpr hmember
  | synonym _ hmembers => exact hmembers
  | phrase _ hmembers => exact hmembers
  | window _ hmembers _ => exact hmembers

theorem Pattern.WellShaped.tokens_ne_nil {pattern : Pattern} (h : pattern.WellShaped) :
    pattern.tokens ≠ [] := by
  cases h with
  | term _ => exact List.cons_ne_nil _ _
  | synonym hne _ => exact hne
  | phrase hlength _ => exact List.ne_nil_of_length_pos (by rw [tokens]; omega)
  | window hne _ _ => exact hne

/-- A clause that is read has tokens, and none of them is empty. -/
theorem Clause.WellShaped.isFilled {clause : Clause} (h : clause.WellShaped) : clause.IsFilled := by
  have hpattern : clause.pattern.WellShaped := by
    cases h <;> assumption
  exact ⟨hpattern.tokens_ne_nil, fun token hmem => (hpattern.isMember token hmem).ne_empty⟩

/-! ### Queries -/

namespace Query

variable {kind : ClauseKind}

/-- The patterns of a kind in a query are in the middle of its clauses. -/
theorem termsOf_false (hkind : kind ∈ ClauseKind.ofPatterns) (query : Query) :
    query.termsOf kind false =
      (query.clauses.filter fun clause => clause.pattern.kind = kind).map Clause.core := by
  obtain ⟨clauses⟩ := query
  change clauses.flatMap (Clause.ofKind kind false false) = _
  induction clauses with
  | nil => rfl
  | cons clause clauses ih =>
      rw [List.flatMap_cons, ih, Clause.ofKind_of_mem_ofPatterns hkind, List.filter_cons]
      by_cases hpattern : clause.pattern.kind = kind <;> simp [hpattern]

/-- Every clause has one pattern, which is of one of the kinds. -/
theorem sum_length_termsOf (query : Query) :
    (ClauseKind.ofPatterns.map fun kind => (query.termsOf kind false).length).sum =
      query.size := by
  have hlength : ∀ kind ∈ ClauseKind.ofPatterns, (query.termsOf kind false).length =
      query.clauses.countP fun clause => clause.pattern.kind = kind := by
    intro kind hkind
    rw [termsOf_false hkind, List.length_map, List.countP_eq_length_filter]
  rw [List.map_congr_left hlength, size]
  induction query.clauses with
  | nil => rfl
  | cons clause clauses ih =>
      have hone : ∀ pattern : Pattern,
          (ClauseKind.ofPatterns.map fun kind => if pattern.kind = kind then 1 else 0).sum = 1 := by
        rintro (_ | _ | _) <;> rfl
      simp only [List.countP_cons, decide_eq_true_eq, List.sum_map_add, ih, hone,
        List.length_cons]

/-- If clauses are well shaped, the patterns of a kind that count as required are those of the
clauses whose match terms are required. -/
theorem flatMap_ofKind_true (hkind : kind ∈ ClauseKind.ofPatterns) {clauses : List Clause}
    {adds : List MatchTerm} (hshape : ∀ clause ∈ clauses, clause.WellShaped)
    (hadds : List.Forall₂ (fun clause term => clause.matchTerm? {} = some term) clauses adds) :
    clauses.flatMap (Clause.ofKind kind true false) =
      ((clauses.zip adds).filter fun added =>
        added.1.pattern.kind = kind ∧ added.2.required = some true).map fun added =>
          added.1.core := by
  induction hadds with
  | nil => rfl
  | @cons clause term clauses adds hterm hadds ih =>
      obtain ⟨hclause, hclauses⟩ := List.forall_mem_cons.mp hshape
      have hrequired : clause.flags.any id ↔ term.required = some true := by
        rw [Clause.matchTerm?_eq, Option.map_eq_some_iff] at hterm
        obtain ⟨shape, -, rfl⟩ := hterm
        exact hclause.any_flags
      rw [List.flatMap_cons, ih hclauses, Clause.ofKind_of_mem_ofPatterns hkind,
        List.zip_cons_cons, List.filter_cons]
      by_cases hpattern : clause.pattern.kind = kind <;>
        by_cases hterm : term.required = some true <;> simp [hpattern, hterm, hrequired]

/-- Requirements are the same to a search through a query that was read and to its compilation.
Every clause adds one match term. The required patterns of a kind are, in order, those of the
clauses of this kind that add a required term; the patterns of a kind are those of all clauses of
this kind, so that over the kinds there are as many of them as clauses. -/
theorem termsOf_of_parse {text : String} {query : Query} (h : parse text = .ok query) :
    ∃ adds : List MatchTerm,
      List.Forall₂ (fun clause term => clause.matchTerm? {} = some term) query.clauses adds ∧
      (∀ c : Collection, c.compile query {} = c.addAll adds) ∧
      (∀ kind ∈ ClauseKind.ofPatterns,
        query.termsOf kind true =
          ((query.clauses.zip adds).filter fun added =>
            added.1.pattern.kind = kind ∧ added.2.required = some true).map (fun added =>
              added.1.core) ∧
        query.termsOf kind false =
          (query.clauses.filter fun clause => clause.pattern.kind = kind).map Clause.core) ∧
      (ClauseKind.ofPatterns.map fun kind => (query.termsOf kind false).length).sum =
        query.size := by
  have hshape := wellShaped_of_parse h
  have hadds := forall₂_matchTerms (fun clause hmem => (hshape clause hmem).isFilled) {}
  refine ⟨query.matchTerms {}, hadds, fun _ => rfl, fun kind hkind => ⟨?_, ?_⟩, ?_⟩
  · exact flatMap_ofKind_true hkind hshape hadds
  · exact termsOf_false hkind query
  · exact sum_length_termsOf query

/-- A required word, a group that must not match, and a word without a sign: neither of the last two
is among the required ones. -/
theorem termsOf_of_parse_three_clauses :
    ∃ query, parse "+a -title:{b c} d" = .ok query ∧
      query.termsOf .term true = [.ofPattern (.term "a")] ∧
      query.termsOf .synonym true = [] ∧
      query.termsOf .synonym false = [.ofPattern (.synonym ["b", "c"])] ∧
      (ClauseKind.ofPatterns.map fun kind => (query.termsOf kind false).length).sum = 3 := by
  have hparse : parse "+a -title:{b c} d" =
      .ok ⟨[.required true (.ofPattern (.term "a")),
        .required false (.field "title" (.ofPattern (.synonym ["b", "c"]))),
        .ofPattern (.term "d")]⟩ := by
    cbv
  obtain ⟨_, -, -, -, hsum⟩ := termsOf_of_parse hparse
  exact ⟨_, hparse, rfl, rfl, rfl, hsum⟩

/-- Requirements inside each other, which cannot be written in a query, are seen differently. -/
example :
    let clause : Clause := .required false (.required true (.ofPattern (.term "a")))
    (⟨[clause]⟩ : Query).termsOf .term true = [.ofPattern (.term "a")] ∧
      (clause.matchTerm? {}).map MatchTerm.required = some (some false) := by
  refine ⟨rfl, ?_⟩
  rw [Clause.matchTerm?_eq]
  rfl

end Query

end Retrieval
