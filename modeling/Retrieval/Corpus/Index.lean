import Retrieval.Corpus.Posting
import Retrieval.Match.Collection

/-!
Indexes. An index keeps the postings of all terms with what follows from them: the lexicon, whose
terms are numbered in their order, and the counts of the whole collection. It supplies the
statistics of the single terms of a compiled query.
-/

namespace Retrieval

/-- The ways to build an index: with positions or without, and at once or in runs. -/
inductive IndexerKind where
  | basic
  | block
  | basicSinglePass
  | blockSinglePass
  deriving DecidableEq, Repr

/-- An indexed document, with the number of its terms. -/
structure IndexedDocument where
  docno : String
  length : Nat
  deriving DecidableEq, Repr

/-- The counts of a whole collection of documents. A pointer is a document in the postings of a
term. -/
structure CorpusStatistics where
  documents : Nat
  tokens : Nat
  uniqueTerms : Nat
  pointers : Nat
  deriving DecidableEq, Repr

def CorpusStatistics.averageLength (statistics : CorpusStatistics) : Float :=
  if statistics.documents = 0 then 0
  else statistics.tokens.toFloat / statistics.documents.toFloat

structure Index where
  kind : IndexerKind
  documents : List IndexedDocument
  lexicon : Std.ExtTreeMap String TermStatistics
  postings : Postings
  statistics : CorpusStatistics

def total (counts : List Nat) : Nat :=
  counts.foldl (· + ·) 0

def TermStatistics.ofPostings (termId : Nat) (postings : List Posting) : TermStatistics :=
  ⟨termId, postings.length, total (postings.map Posting.frequency)⟩

namespace Index

/-- The lexicon of some postings. The terms are numbered in their order. -/
def lexiconOf (postings : Postings) : Std.ExtTreeMap String TermStatistics :=
  postings.toList.zipIdx.foldl (fun lexicon (entry, termId) =>
    lexicon.insert entry.1 (TermStatistics.ofPostings termId entry.2)) ∅

def ofPostings (kind : IndexerKind) (documents : List IndexedDocument) (postings : Postings) :
    Index :=
  let lexicon := lexiconOf postings
  { kind, documents, lexicon, postings
    statistics :=
      { documents := documents.length
        tokens := total (documents.map IndexedDocument.length)
        uniqueTerms := lexicon.size
        pointers := total (postings.toList.map fun entry => entry.2.length) } }

def document? (index : Index) (number : Nat) : Option IndexedDocument :=
  index.documents[number]?

def entry? (index : Index) (term : String) : Option TermStatistics :=
  index.lexicon[term]?

def postings? (index : Index) (term : String) : Option (List Posting) :=
  index.postings[term]?

def entries (index : Index) : List (String × TermStatistics) :=
  index.lexicon.toList

/-- The statistics for an operator, which must be a single term in all fields. -/
def operatorEntry? (index : Index) (operator : Operator) : Option (String × TermStatistics) :=
  match operator with
  | ⟨.term term, none⟩ => (index.entry? term).map fun entry => (term, entry)
  | _ => none

/-- Supplies the statistics of the single terms of a collection. The count tells how many terms
have them. -/
def attach (index : Index) (c : Collection) : Nat × Collection :=
  let found := c.terms.filterMap fun term => index.operatorEntry? term.operator
  (found.length,
    found.foldl (fun c (term, entry) => (c.setStatistics? term entry).getD c) c)

end Index

end Retrieval
