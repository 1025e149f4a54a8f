import Retrieval.Text.Quoted

/-!
Documents to be indexed, and the reasons why a batch of them cannot be.
-/

namespace Retrieval

structure Document where
  docno : String
  text : String
  deriving DecidableEq, Repr

inductive IndexError where
  | docnoTooLong (docno : String) (length maximum : Nat)
  | unequalLists (docnos texts : Nat)
  | zeroRun
  | unknownIndexer (name : String)
  deriving DecidableEq, Repr

def IndexError.message : IndexError → String
  | docnoTooLong docno length maximum =>
      "document identifier " ++ Text.quoted docno ++ " is " ++ Nat.repr length ++
        " bytes long, maximum is " ++ Nat.repr maximum
  | unequalLists docnos texts =>
      Nat.repr docnos ++ " document identifiers but " ++ Nat.repr texts ++ " texts"
  | zeroRun => "invalid indexing setting flush_every: must be at least 1"
  | unknownIndexer name => "unknown indexer: " ++ name

/-- The documents with some identifiers and texts, which must be equally many. -/
def Document.batch (docnos texts : List String) : Except IndexError (List Document) :=
  if docnos.length = texts.length then .ok (docnos.zipWith Document.mk texts)
  else .error (.unequalLists docnos.length texts.length)

end Retrieval
