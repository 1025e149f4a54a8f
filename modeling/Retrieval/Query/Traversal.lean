import Retrieval.Query.Clause

/-!
Ways to look through a query: a walk along the chain, the clauses of one kind in the chain, and the
clauses of one kind anywhere, wrapped or not.
-/

namespace Retrieval

namespace Clause

/-- The layers of a clause that are of a kind, from the outside in. With `onlyRequired` a layer
counts only if it is, or stands under, a requirement to match. -/
def ofKind (kind : ClauseKind) (onlyRequired underRequired : Bool) (clause : Clause) :
    List Clause :=
  match clause with
  | leaf pattern _ =>
      if pattern.kind = kind ∧ (!onlyRequired || underRequired) then [clause] else []
  | required flag inner =>
      let here := underRequired || flag
      let rest := inner.ofKind kind onlyRequired here
      if .required = kind ∧ (!onlyRequired || here) then clause :: rest else rest
  | field _ inner =>
      let rest := inner.ofKind kind onlyRequired underRequired
      if .field = kind ∧ (!onlyRequired || underRequired) then clause :: rest else rest

end Clause

namespace Query

/-- Walks along a chain of clauses. The visitor is given a state, a clause and the clause after it,
and says whether the walk goes on. -/
def visitClauses {State : Type} (visitor : State → Clause → Option Clause → State × Bool)
    (state : State) : List Clause → State
  | [] => state
  | clause :: clauses =>
      let (next, continues) := visitor state clause clauses.head?
      if continues then visitClauses visitor next clauses else next

def visit {State : Type} (query : Query)
    (visitor : State → Clause → Option Clause → State × Bool) (state : State) : State :=
  visitClauses visitor state query.clauses

def ofKind (query : Query) (kind : ClauseKind) : List Clause :=
  query.clauses.filter fun clause => clause.kind = kind

/-- The clauses of a kind in the chain and inside its wrappers. With `onlyRequired` they are those
under a requirement to match. -/
def termsOf (query : Query) (kind : ClauseKind) (onlyRequired : Bool) : List Clause :=
  query.clauses.flatMap (Clause.ofKind kind onlyRequired false)

end Query

end Retrieval
