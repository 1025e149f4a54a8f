import Retrieval.Query.Clause
import Retrieval.Text.LowerCase
import Std.Data.ExtTreeMap
import Std.Data.ExtTreeSet

/-!
Control directives, the clauses of a query that speak to the engine and not to the index. A control
is a field over a single term whose name, in lower case, is among the names of controls.
-/

namespace Retrieval

abbrev Controls := Std.ExtTreeMap String String

def Clause.control? (names : Std.ExtTreeSet String) : Clause → Option (String × String)
  | field name (leaf (.term text) _) =>
      let key := Text.lowercase name
      if names.contains key then some (key, text) else none
  | _ => none

/-- A query whose controls are taken out: the clauses that are kept, the values of controls, and
whether there was any control. -/
structure Extraction where
  query : Query
  controls : Controls
  found : Bool

/-- Goes on to the next clause, which is kept unless it is a control. -/
def Extraction.step (names : Std.ExtTreeSet String) (taken : Extraction) (clause : Clause) :
    Extraction :=
  match clause.control? names with
  | some (name, value) =>
      { taken with controls := taken.controls.insert name value, found := true }
  | none => { taken with query := taken.query.push clause }

/-- Takes the controls out of a query. Their values are added to those known before; the last value
of a name is kept. -/
def Query.takeControls (query : Query) (names : Std.ExtTreeSet String) (known : Controls) :
    Extraction :=
  query.clauses.foldl (Extraction.step names) ⟨.empty, known, false⟩

end Retrieval
