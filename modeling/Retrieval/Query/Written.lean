import Retrieval.Decimal.Positional
import Retrieval.Query.Clause
import Retrieval.Text.Quoted

/-!
The text of a query. In its written form a query reads as it would be typed, except for groups of
synonyms, which are written like operators; a weight is written unless it is the default one. The
outline shows the nesting of the clauses, one layer on a line.
-/

namespace Retrieval

/-- A weight with its sign, or nothing for the default weight. -/
def Clause.writeWeight (weight : Float) : String :=
  if weight == Clause.defaultWeight then "" else "^" ++ Decimal.write weight

def Pattern.written : Pattern → String
  | term text => text
  | synonym terms => "#syn(" ++ " ".intercalate terms ++ ")"
  | phrase terms none => "\"" ++ " ".intercalate terms ++ "\""
  | phrase terms (some size) => "\"" ++ " ".intercalate terms ++ "\"~" ++ Nat.repr size

def Clause.written : Clause → String
  | leaf pattern weight => pattern.written ++ writeWeight weight
  | required true inner => "+" ++ inner.written
  | required false inner => "-" ++ inner.written
  | field name inner => name ++ ":" ++ inner.written

def Query.written (query : Query) : String :=
  " ".intercalate (query.clauses.map Clause.written)

def Pattern.outline : Pattern → String
  | term text => "Term(" ++ Text.quoted text
  | synonym terms => "Synonym(" ++ Text.quotedList terms
  | phrase terms none => "Phrase(" ++ Text.quotedList terms
  | phrase terms (some size) => "Phrase(" ++ Text.quotedList terms ++ ", ~" ++ Nat.repr size

def Clause.outline : Clause → List String
  | leaf pattern weight => [pattern.outline ++ ", " ++ Decimal.write weight ++ ")"]
  | required flag inner =>
      ("Required(" ++ (if flag then "true" else "false") ++ ")") ::
        inner.outline.map ("  " ++ ·)
  | field name inner => ("Field(" ++ Text.quoted name ++ ")") :: inner.outline.map ("  " ++ ·)

/-- The outline of a query. Every line ends with a line break. -/
def Query.outline (query : Query) : String :=
  let lines := query.clauses.flatMap fun clause => clause.outline.map ("  " ++ ·)
  String.join (("Query" :: lines).map (· ++ "\n"))

end Retrieval
