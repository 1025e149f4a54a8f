import Retrieval.Corpus.Index
import Retrieval.Settings.Stages

/-!
Indexers, which turn batches of documents into indexes. A batch is checked as a whole before any
document is indexed, so an index holds all documents of a batch or there is none.
-/

namespace Retrieval

namespace IndexerKind

def all : List IndexerKind :=
  [basic, block, basicSinglePass, blockSinglePass]

def name : IndexerKind → String
  | basic => "basic"
  | block => "block"
  | basicSinglePass => "basic-single-pass"
  | blockSinglePass => "block-single-pass"

def hasPositions : IndexerKind → Bool
  | basic => false
  | block => true
  | basicSinglePass => false
  | blockSinglePass => true

def isSinglePass : IndexerKind → Bool
  | basic => false
  | block => false
  | basicSinglePass => true
  | blockSinglePass => true

/-- Finds a kind by its name or its short name, in lower case. -/
def ofName (name : String) : Except IndexError IndexerKind :=
  match Text.lowercase name with
  | "basic" => .ok basic
  | "block" => .ok block
  | "basic-single-pass" | "basic-sp" => .ok basicSinglePass
  | "block-single-pass" | "block-sp" => .ok blockSinglePass
  | other => .error (.unknownIndexer other)

end IndexerKind

/-- Whether the documents of a batch are inverted at once or in runs of a length. -/
inductive IndexPlan where
  | atOnce
  | inRuns (length : Nat) (positive : 0 < length)

def IndexPlan.invert (withPositions : Bool) (documents : List (List String)) :
    IndexPlan → Inversion
  | atOnce => .ofDocuments withPositions 0 documents
  | inRuns length positive => .ofRuns withPositions (cutRuns length positive documents)

/-- How documents are indexed. Only kinds that index in runs look at the length of a run. -/
structure Indexer where
  kind : IndexerKind
  pipeline : Pipeline
  maxDocnoLength : Nat := 20
  flushEvery : Nat := 1000

namespace Indexer

def ofSettings (kind : IndexerKind) (settings : Settings) : Except StageError Indexer :=
  settings.pipeline.build.map fun pipeline =>
    { kind, pipeline
      maxDocnoLength := settings.indexing.maxDocnoLength
      flushEvery := settings.indexing.flushEvery }

def overlong? (indexer : Indexer) (documents : List Document) : Option Document :=
  documents.find? fun document => indexer.maxDocnoLength < document.docno.utf8ByteSize

/-- How the documents of a batch are inverted, unless it is in runs of no documents. -/
def plan (indexer : Indexer) : Except IndexError IndexPlan :=
  if indexer.kind.isSinglePass then
    if h : 0 < indexer.flushEvery then .ok (.inRuns indexer.flushEvery h) else .error .zeroRun
  else .ok .atOnce

/-- Accepts a batch whose identifiers are short enough. The first one that is too long decides the
error. -/
def validate (indexer : Indexer) (documents : List Document) : Except IndexError IndexPlan :=
  indexer.plan.bind fun plan =>
    match indexer.overlong? documents with
    | some document =>
        .error (.docnoTooLong document.docno document.docno.utf8ByteSize
          indexer.maxDocnoLength)
    | none => .ok plan

/-- Indexes a batch of documents. Their identifiers are joined with the lengths that inverting them
gave. -/
def index (indexer : Indexer) (documents : List Document) : Except IndexError Index :=
  (indexer.validate documents).map fun plan =>
    let inversion := plan.invert indexer.kind.hasPositions
      (documents.map (Document.terms indexer.pipeline))
    .ofPostings indexer.kind
      (documents.zipWith (fun document length => ⟨document.docno, length⟩) inversion.lengths)
      inversion.postings

end Indexer

end Retrieval
