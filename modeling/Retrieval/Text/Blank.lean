/-!
White space and the words it separates. A word is a longest run of characters that are not white
space, so words are never empty.
-/

namespace Retrieval.Text

/-- Whether a character is white space, by the property White_Space. -/
def isBlank (c : Char) : Bool :=
  let n := c.toNat
  (0x09 ≤ n && n ≤ 0x0D) || n == 0x20 || n == 0x85 || n == 0xA0 || n == 0x1680 ||
    (0x2000 ≤ n && n ≤ 0x200A) || n == 0x2028 || n == 0x2029 || n == 0x202F ||
    n == 0x205F || n == 0x3000

def isSolid (c : Char) : Bool :=
  !isBlank c

theorem length_dropWhile_le {α : Type} (p : α → Bool) (xs : List α) :
    (xs.dropWhile p).length ≤ xs.length :=
  (List.dropWhile_sublist p).length_le

def words (cs : List Char) : List (List Char) :=
  match _h : cs.dropWhile isBlank with
  | [] => []
  | c :: rest => (c :: rest.takeWhile isSolid) :: words (rest.dropWhile isSolid)
termination_by cs.length
decreasing_by
  have hle := length_dropWhile_le isBlank cs
  have hrest := length_dropWhile_le isSolid rest
  simp only [_h, List.length_cons] at hle
  omega

def splitWords (s : String) : List String :=
  (words s.toList).map String.ofList

end Retrieval.Text
