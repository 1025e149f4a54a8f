import Std.Data.ExtTreeSet

/-!
Sets of words that carry no meaning of their own in a query. The letters A to Z match in either
case; other letters match only themselves.
-/

namespace Retrieval

/-- A set of stopwords, with the letters A to Z in lower case. -/
structure Stopwords where
  words : Std.ExtTreeSet String

namespace Stopwords

def ofList (words : List String) : Stopwords :=
  ⟨Std.ExtTreeSet.ofList (words.map String.toLower)⟩

def contains (stopwords : Stopwords) (token : String) : Bool :=
  stopwords.words.contains token.toLower

def size (stopwords : Stopwords) : Nat :=
  stopwords.words.size

def isEmpty (stopwords : Stopwords) : Bool :=
  stopwords.words.isEmpty

end Stopwords

end Retrieval
