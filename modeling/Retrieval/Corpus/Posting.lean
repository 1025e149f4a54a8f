import Retrieval.Analysis.Pipeline
import Retrieval.Corpus.Document
import Retrieval.Text.Blank
import Std.Data.ExtTreeMap

/-!
Inverting documents. A document is a sequence of terms; its inversion says for each term how often
and where it occurs. The postings of several documents list, for each term, the documents with that
term in the order of their numbers. Runs of documents are inverted apart and then joined.
-/

namespace Retrieval

/-- The occurrences of a term in a document. The positions are kept only if they are asked for. -/
structure Posting where
  document : Nat
  frequency : Nat
  positions : List Nat
  deriving DecidableEq, Repr

abbrev Postings := Std.ExtTreeMap String (List Posting)

/-- The terms of a document in order: what a pipeline keeps of its words. -/
def Document.terms (pipeline : Pipeline) (document : Document) : List String :=
  (Text.splitWords document.text).filterMap pipeline.term?

namespace Posting

def record (withPositions : Bool) (position : Nat) (posting : Posting) : Posting :=
  { posting with
    frequency := posting.frequency + 1
    positions := if withPositions then posting.positions ++ [position] else posting.positions }

def ofTerms (withPositions : Bool) (document : Nat) (terms : List String) :
    Std.ExtTreeMap String Posting :=
  terms.zipIdx.foldl (fun postings (term, position) =>
    postings.alter term fun known =>
      some ((known.getD ⟨document, 0, []⟩).record withPositions position)) ∅

end Posting

namespace Postings

def append (postings : Postings) (term : String) (more : List Posting) : Postings :=
  postings.alter term fun known => some (known.getD [] ++ more)

def addDocument (withPositions : Bool) (postings : Postings) (document : Nat)
    (terms : List String) : Postings :=
  (Posting.ofTerms withPositions document terms).foldl
    (fun postings term posting => postings.append term [posting]) postings

/-- The postings of documents that are given by their terms. They are numbered from a first
number on. -/
def invert (withPositions : Bool) (first : Nat) (documents : List (List String)) : Postings :=
  (documents.zipIdx first).foldl
    (fun postings (terms, document) => postings.addDocument withPositions document terms) ∅

/-- The postings of one run after those of another. -/
def join (postings run : Postings) : Postings :=
  run.foldl append postings

end Postings

/-- Cuts a list into runs of a length, the last of which may be shorter. -/
def cutRuns {α : Type} (length : Nat) (positive : 0 < length) (items : List α) :
    List (List α) :=
  if items.isEmpty then []
  else items.take length :: cutRuns length positive (items.drop length)
termination_by items.length
decreasing_by
  rename_i h
  have := List.length_pos_iff.mpr (fun he => h (List.isEmpty_iff.mpr he))
  simp only [List.length_drop]
  omega

/-- What inverting documents gives: the number of terms of each document, in order, and the postings
of all terms. -/
structure Inversion where
  lengths : List Nat := []
  postings : Postings := ∅

namespace Inversion

/-- The inversion of documents that are given by their terms. They are numbered from a first number
on. -/
def ofDocuments (withPositions : Bool) (first : Nat) (documents : List (List String)) :
    Inversion where
  lengths := documents.map List.length
  postings := .invert withPositions first documents

/-- The inversion of one more run of documents behind those before it. They are numbered on. -/
def addRun (withPositions : Bool) (inversion : Inversion) (run : List (List String)) : Inversion :=
  let inverted := ofDocuments withPositions inversion.lengths.length run
  { lengths := inversion.lengths ++ inverted.lengths
    postings := inversion.postings.join inverted.postings }

def ofRuns (withPositions : Bool) (runs : List (List (List String))) : Inversion :=
  runs.foldl (addRun withPositions) {}

end Inversion

end Retrieval
