/-!
Operators, the units that the matching engine evaluates, and their canonical texts. Two operators
with the same canonical text are the same to a collection of match terms.
-/

namespace Retrieval

/-- What an operator matches, apart from the field in which it matches. -/
inductive Shape where
  | term (text : String)
  | synonym (terms : List String)
  | phrase (terms : List String)
  | window (terms : List String) (size : Nat)
  deriving DecidableEq, Repr

/-- A shape, matched in one field or in all of them. -/
structure Operator where
  shape : Shape
  field : Option String := none
  deriving DecidableEq, Repr

def Shape.terms : Shape → List String
  | term text => [text]
  | synonym terms => terms
  | phrase terms => terms
  | window terms _ => terms

def Shape.canonical : Shape → String
  | term text => text
  | synonym terms => "#syn(" ++ " ".intercalate terms ++ ")"
  | phrase terms => "#1(" ++ " ".intercalate terms ++ ")"
  | window terms size => "#uw" ++ Nat.repr size ++ "(" ++ " ".intercalate terms ++ ")"

namespace Operator

def term (text : String) : Operator :=
  ⟨.term text, none⟩

def terms (operator : Operator) : List String :=
  operator.shape.terms

def inField (operator : Operator) (field : String) : Operator :=
  { operator with field := some field }

/-- The text that identifies the operator: its field with a colon, if it has one, and its shape. -/
def canonical (operator : Operator) : String :=
  match operator.field with
  | some field => field ++ ":" ++ operator.shape.canonical
  | none => operator.shape.canonical

end Operator

end Retrieval
