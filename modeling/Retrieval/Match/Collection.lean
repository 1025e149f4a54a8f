import Retrieval.Match.Term
import Std.Data.ExtTreeMap

/-!
Collections of match terms, the result of compiling a query. The terms keep the order in which they
were first added, and a table leads from the key of a term to its position. Adding an operator that
is present already merges the two occurrences.
-/

namespace Retrieval

/-- Match terms in order, with the position of each key. -/
structure Collection where
  queryId : Option String := none
  terms : List MatchTerm := []
  positions : Std.ExtTreeMap String Nat := ∅

namespace Collection

def empty : Collection := {}

def size (c : Collection) : Nat :=
  c.terms.length

def isEmpty (c : Collection) : Bool :=
  c.terms.isEmpty

def keys (c : Collection) : List String :=
  c.terms.map MatchTerm.key

/-- Adds a term, or merges it into the term with the same key. -/
def add (c : Collection) (term : MatchTerm) : Collection :=
  match c.positions[term.key]? with
  | some position => { c with terms := c.terms.modify position (·.merge term) }
  | none =>
      { c with
        terms := c.terms ++ [term]
        positions := c.positions.insert term.key c.terms.length }

/-- Adds to the weight of a single term, which is new if it is absent. -/
def addWeight (c : Collection) (text : String) (weight : Float) : Collection :=
  c.add { operator := .term text, weight }

def get? (c : Collection) (key : String) : Option MatchTerm :=
  c.positions[key]?.bind fun position => c.terms[position]?

/-- Changes the term with a key, if there is one. The change must keep the operator. -/
def update? (c : Collection) (key : String) (change : MatchTerm → MatchTerm) :
    Option Collection :=
  c.positions[key]?.bind fun position =>
    if position < c.terms.length then
      some { c with terms := c.terms.modify position change }
    else none

def weight? (c : Collection) (key : String) : Option Float :=
  (c.get? key).map MatchTerm.weight

def setWeight? (c : Collection) (key : String) (weight : Float) : Option Collection :=
  c.update? key ({ · with weight })

def statistics? (c : Collection) (key : String) : Option TermStatistics :=
  (c.get? key).bind MatchTerm.statistics

def setStatistics? (c : Collection) (key : String) (statistics : TermStatistics) :
    Option Collection :=
  c.update? key ({ · with statistics := some statistics })

def addModel? (c : Collection) (key : String) (model : String) : Option Collection :=
  c.update? key fun term => { term with models := term.models ++ [model] }

def setDefaultModel (c : Collection) (model : String) : Collection :=
  { c with
    terms := c.terms.map fun term =>
      if term.models.isEmpty then { term with models := [model] } else term }

/-- The larger of two numbers; one that is no number is left out. -/
def larger (first second : Float) : Float :=
  if first < second then second else first

/-- The largest weight, or minus infinity if no weight is a number. -/
def maxWeight (c : Collection) : Float :=
  (c.terms.map MatchTerm.weight).foldl larger (-1 / 0)

/-- Divides all weights by the largest one, if that is positive and finite. -/
def normaliseWeights (c : Collection) : Collection :=
  let largest := c.maxWeight
  if largest ≤ 0 || !largest.isFinite then c
  else { c with terms := c.terms.map fun term => { term with weight := term.weight / largest } }

/-- Takes out the term with a key. The other terms keep their order. -/
def remove? (c : Collection) (key : String) : Option (MatchTerm × Collection) :=
  c.positions[key]?.bind fun position =>
    c.terms[position]?.map fun term =>
      (term,
        { c with
          terms := c.terms.eraseIdx position
          positions := (c.positions.erase key).map fun _ other =>
            if position < other then other - 1 else other })

def withTag (c : Collection) (tag : String) : List MatchTerm :=
  c.terms.filter fun term => term.tags.contains tag

def addAll (c : Collection) (terms : List MatchTerm) : Collection :=
  terms.foldl add c

@[simp] theorem addAll_nil (c : Collection) : c.addAll [] = c := rfl

@[simp] theorem addAll_cons (c : Collection) (term : MatchTerm) (terms : List MatchTerm) :
    c.addAll (term :: terms) = (c.add term).addAll terms := rfl

theorem addAll_append (c : Collection) (first second : List MatchTerm) :
    c.addAll (first ++ second) = (c.addAll first).addAll second :=
  List.foldl_append

end Collection

end Retrieval
