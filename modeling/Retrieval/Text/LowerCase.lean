import Retrieval.Text.CaseIgnorable
import Retrieval.Text.Cased
import Retrieval.Text.LowerMapping

/-!
Lower case of a whole text. Each character is lowered by itself, except the capital sigma, whose
form depends on whether it ends a word: a cased character stands before it and none after it, when
the characters that rules on case look past are left out.
-/

namespace Retrieval.Text

def startsCased (cs : List Char) : Bool :=
  match cs.dropWhile isCaseIgnorable with
  | [] => false
  | c :: _ => isCased c

/-- The lower case form of a capital sigma with the characters before it, nearest first, and those
after it. -/
def lowerSigma (before after : List Char) : Char :=
  if startsCased before && !startsCased after then 'ς' else 'σ'

/-- Lowers a text that follows the characters `before`, which are given nearest first. -/
def lowerAfter (before : List Char) : List Char → List Char
  | [] => []
  | c :: cs =>
      (if c = 'Σ' then [lowerSigma before cs] else lowerChar c) ++ lowerAfter (c :: before) cs

def lowercase (s : String) : String :=
  String.ofList (lowerAfter [] s.toList)

end Retrieval.Text
