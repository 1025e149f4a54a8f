import Retrieval.Text.LowerCase

/-!
A weak stemmer that brings plural forms together. A word is lowered, and one of a few endings is
cut from a word of more than three characters. Several endings may fit; the order of the endings
says which one is cut.
-/

namespace Retrieval.Stemmer

/-- Words with at most this many characters keep their endings. -/
def shortLength : Nat := 3

/-- The endings that are cut, in the order in which they are tried. -/
def endings : List (List Char) :=
  [['i', 'e', 's'], ['y'], ['e', 's'], ['s']]

/-- A word without the first ending that fits. -/
def cutEnding (cs : List Char) : List Char :=
  (endings.findSome? fun ending => ending.isSuffixOf? cs).getD cs

/-- The stem of a word. The characters are counted before the word is lowered. -/
def stem (word : String) : String :=
  let lower := Text.lowercase word
  if shortLength < word.length then String.ofList (cutEnding lower.toList) else lower

end Retrieval.Stemmer
