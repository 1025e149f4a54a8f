/-!
The values of a TOML document and the tables that hold them. A table remembers how it came about,
because that decides whether the lines that follow may still add to it.
-/

namespace Retrieval.Toml

/-- How a table came about: written in braces, opened by a header of its own, opened as the parent
of another header, or opened by a dotted key. -/
inductive Origin where
  | inline
  | header
  | parent
  | dotted
  deriving DecidableEq, Repr

/-- A value. Floats and dates are kept as they are spelled. An integer has no number if its spelling
has the outline of an integer, but not only digits of its base. -/
inductive Value where
  | string (text : String)
  | integer (number? : Option Int)
  | boolean (flag : Bool)
  | float (spelling : String)
  | date (spelling : String)
  | array (items : List Value)
  | table (origin : Origin) (entries : List (String × Value))
  | tables (elements : List (List (String × Value)))

abbrev Entries := List (String × Value)

namespace Entries

def find? (key : String) (entries : Entries) : Option Value :=
  entries.lookup key

def replace (key : String) (value : Value) (entries : Entries) : Entries :=
  entries.map fun entry => if entry.1 = key then (key, value) else entry

/-- Gives a value to a dotted key that is new. The tables on the way are opened by this key, or
were opened by another dotted key. -/
def assign : List String → Value → Entries → Option Entries
  | [], _, _ => none
  | [key], value, entries =>
      match find? key entries with
      | none => some (entries ++ [(key, value)])
      | some _ => none
  | key :: next :: path, value, entries =>
      match find? key entries with
      | none =>
          (assign (next :: path) value []).map fun inner =>
            entries ++ [(key, .table .dotted inner)]
      | some (.table .dotted inner) =>
          (assign (next :: path) value inner).map fun inner =>
            replace key (.table .dotted inner) entries
      | some _ => none

/-- Changes the table that a header names, which is the last one if there are several. Tables that
are missing on the way are opened as parents. -/
def within : List String → (Entries → Option Entries) → Entries → Option Entries
  | [], change, entries => change entries
  | key :: path, change, entries =>
      match find? key entries with
      | none =>
          (within path change []).map fun inner => entries ++ [(key, .table .parent inner)]
      | some (.table .inline _) => none
      | some (.table origin inner) =>
          (within path change inner).map fun inner => replace key (.table origin inner) entries
      | some (.tables elements) =>
          (within path change (elements.getLast?.getD [])).map fun inner =>
            replace key (.tables (elements.dropLast ++ [inner])) entries
      | some _ => none

def openTable (key : String) (entries : Entries) : Option Entries :=
  match find? key entries with
  | none => some (entries ++ [(key, .table .header [])])
  | some (.table .parent inner) => some (replace key (.table .header inner) entries)
  | some _ => none

def openElement (key : String) (entries : Entries) : Option Entries :=
  match find? key entries with
  | none => some (entries ++ [(key, .tables [[]])])
  | some (.tables elements) => some (replace key (.tables (elements ++ [[]])) entries)
  | some _ => none

end Entries

end Retrieval.Toml
