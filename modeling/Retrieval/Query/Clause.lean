import Retrieval.Analysis.Pipeline
import Retrieval.Query.Token

/-!
Clauses and queries. A clause is a pattern with a weight, wrapped in any number of requirements and
fields; a query is a chain of clauses. Weights, tokens and normalisation only concern the pattern
in the middle and leave the wrappers alone.
-/

namespace Retrieval

/-- What a clause looks for: a term, one of several terms, or terms next to each other. A phrase
with a window accepts its terms in any order within that many tokens. -/
inductive Pattern where
  | term (text : String)
  | synonym (terms : List String)
  | phrase (terms : List String) (window : Option Nat)
  deriving DecidableEq, Repr

inductive Clause where
  | leaf (pattern : Pattern) (weight : Float)
  | required (flag : Bool) (inner : Clause)
  | field (name : String) (inner : Clause)
  deriving BEq

inductive ClauseKind where
  | term
  | required
  | field
  | synonym
  | phrase
  deriving DecidableEq, Repr

namespace Pattern

def tokens : Pattern → List String
  | term text => [text]
  | synonym terms => terms
  | phrase terms _ => terms

def kind : Pattern → ClauseKind
  | term _ => .term
  | synonym _ => .synonym
  | phrase _ _ => .phrase

def normalise? (pipeline : Pipeline) : Pattern → Option Pattern
  | term text => (pipeline.term? text).map term
  | synonym terms =>
      let kept := terms.filterMap pipeline.term?
      if kept.isEmpty then none else some (synonym kept)
  | phrase terms window =>
      let kept := terms.filterMap pipeline.term?
      if kept.isEmpty then none else some (phrase kept window)

end Pattern

namespace Clause

def defaultWeight : Float := 1

def ofPattern (pattern : Pattern) : Clause :=
  leaf pattern defaultWeight

/-- The kind of a clause, by its outermost layer. -/
def kind : Clause → ClauseKind
  | leaf pattern _ => pattern.kind
  | required _ _ => .required
  | field _ _ => .field

/-- The pattern in the middle of a clause. -/
def pattern : Clause → Pattern
  | leaf pattern _ => pattern
  | required _ inner => inner.pattern
  | field _ inner => inner.pattern

def weight : Clause → Float
  | leaf _ weight => weight
  | required _ inner => inner.weight
  | field _ inner => inner.weight

def scale (factor : Float) : Clause → Clause
  | leaf pattern weight => leaf pattern (weight * factor)
  | required flag inner => required flag (inner.scale factor)
  | field name inner => field name (inner.scale factor)

def tokens (clause : Clause) : List String :=
  clause.pattern.tokens

/-- The clause with the terms that a pipeline makes of its tokens, if any is left. -/
def normalise? (pipeline : Pipeline) : Clause → Option Clause
  | leaf pattern weight => (pattern.normalise? pipeline).map (leaf · weight)
  | required flag inner => (inner.normalise? pipeline).map (required flag)
  | field name inner => (inner.normalise? pipeline).map (field name)

end Clause

/-- A chain of clauses, all of which take part in a match. -/
structure Query where
  clauses : List Clause
  deriving BEq

namespace Query

def empty : Query := ⟨[]⟩

def size (query : Query) : Nat :=
  query.clauses.length

def isEmpty (query : Query) : Bool :=
  query.clauses.isEmpty

def push (query : Query) (clause : Clause) : Query :=
  ⟨query.clauses ++ [clause]⟩

def append (first second : Query) : Query :=
  ⟨first.clauses ++ second.clauses⟩

instance : Append Query := ⟨append⟩

/-- Replaces the tokens of all clauses by the terms that a pipeline makes of them. Clauses without
any term left are taken out. -/
def normalise (pipeline : Pipeline) (query : Query) : Query :=
  ⟨query.clauses.filterMap (Clause.normalise? pipeline)⟩

def applyPipeline (pipeline : Pipeline) (query : Query) : Query × Bool :=
  (query.normalise pipeline, !(query.normalise pipeline).isEmpty)

end Query

end Retrieval
