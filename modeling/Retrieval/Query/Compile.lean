import Retrieval.Match.Collection
import Retrieval.Query.Clause
import Retrieval.Text.LowerCase

/-!
Compiling queries into match terms. Every clause with a token that is not empty gives one match
term. A field inside a clause replaces the one from outside it, while a requirement outside a
clause overrides those inside it.
-/

namespace Retrieval

/-- What is laid over all clauses of a query when it is compiled: a field, a requirement that
overrides those of the clauses, a factor for the weights, and whether tokens are lowered. -/
structure CompileOptions where
  field : Option String := none
  required : Option Bool := none
  weight : Option Float := none
  lowercase : Bool := true

namespace CompileOptions

def term (options : CompileOptions) (token : String) : String :=
  if options.lowercase then Text.lowercase token else token

def terms (options : CompileOptions) (tokens : List String) : List String :=
  (tokens.filter fun token => !token.isEmpty).map options.term

theorem terms_eq (options : CompileOptions) (tokens : List String) :
    options.terms tokens =
      (tokens.filter (· ≠ "")).map (if options.lowercase then Text.lowercase else id) := by
  have hterm : options.term = if options.lowercase then Text.lowercase else id := by
    funext token
    rw [term]
    split <;> rfl
  have hfilter : tokens.filter (fun token => !token.isEmpty) = tokens.filter (· ≠ "") := by
    refine List.filter_congr fun token _ => ?_
    rw [Bool.eq_iff_iff]
    simp
  rw [terms, hterm, hfilter]

end CompileOptions

/-- The shape of the operator for a pattern, unless all its tokens are empty. -/
def Pattern.shape? (options : CompileOptions) : Pattern → Option Shape
  | term text => if text.isEmpty then none else some (.term (options.term text))
  | synonym members =>
      let terms := options.terms members
      if terms.isEmpty then none else some (.synonym terms)
  | phrase members window =>
      let terms := options.terms members
      if terms.isEmpty then none
      else
        match window with
        | some size => some (.window terms size)
        | none => some (.phrase terms)

def Clause.matchTerm? (options : CompileOptions) : Clause → Option MatchTerm
  | leaf pattern weight =>
      (pattern.shape? options).map fun shape =>
        { operator := ⟨shape, options.field⟩
          weight := weight * options.weight.getD 1
          required := options.required }
  | required flag inner =>
      inner.matchTerm? { options with required := options.required.or (some flag) }
  | field name inner => inner.matchTerm? { options with field := some name }

def Query.matchTerms (options : CompileOptions) (query : Query) : List MatchTerm :=
  query.clauses.filterMap (Clause.matchTerm? options)

def Collection.compile (c : Collection) (query : Query) (options : CompileOptions) : Collection :=
  c.addAll (query.matchTerms options)

theorem Collection.compile_append (c : Collection) (first second : Query)
    (options : CompileOptions) :
    c.compile (first ++ second) options = (c.compile first options).compile second options := by
  change c.addAll ((first.clauses ++ second.clauses).filterMap _) = _
  rw [List.filterMap_append, addAll_append]
  rfl

end Retrieval
