/-!
The characters of a TOML document: blanks, line breaks, comments, and the strings in their four
forms. Each reader takes its part from the front of a text and returns a shorter rest.
-/

namespace Retrieval.Toml

/-- What was read at the front of a text, with the rest. -/
structure Taken (α : Type) (cs : List Char) where
  value : α
  rest : List Char
  shorter : rest.length < cs.length

theorem Taken.length_lt_succ {cs : List Char} (taken : Taken (List Char) cs) :
    taken.rest.length < cs.length + 1 :=
  Nat.lt_succ_of_lt taken.shorter

def expect (c : Char) : (cs : List Char) → Option (Taken Unit cs)
  | [] => none
  | head :: rest => if head = c then some ⟨(), rest, Nat.lt_succ_self _⟩ else none

def isSpace (c : Char) : Bool :=
  c == ' ' || c == '\t'

/-- Whether a character may stand in comments and strings: no control but the tab. -/
def isPlain (c : Char) : Bool :=
  c == '\t' || (0x20 ≤ c.toNat && c.toNat != 0x7F)

def skipSpaces (cs : List Char) : List Char :=
  cs.dropWhile isSpace

theorem length_skipSpaces_le (cs : List Char) : (skipSpaces cs).length ≤ cs.length :=
  (List.dropWhile_sublist isSpace).length_le

def dropBreak? : List Char → Option (List Char)
  | '\n' :: rest => some rest
  | '\r' :: '\n' :: rest => some rest
  | _ => none

def skipComment : List Char → List Char
  | '#' :: rest => rest.dropWhile isPlain
  | cs => cs

theorem length_skipComment_le (cs : List Char) : (skipComment cs).length ≤ cs.length := by
  unfold skipComment
  split
  · have := (List.dropWhile_sublist (l := ‹List Char›) isPlain).length_le
    simp only [List.length_cons]
    omega
  · exact Nat.le_refl _

theorem length_lt_of_dropBreak? {cs rest : List Char} (h : dropBreak? cs = some rest) :
    rest.length < cs.length := by
  unfold dropBreak? at h
  split at h <;> cases h <;> simp only [List.length_cons] <;> omega

def skipLines (cs : List Char) : List Char :=
  match _h : dropBreak? (skipComment (skipSpaces cs)) with
  | some rest => skipLines rest
  | none => skipComment (skipSpaces cs)
termination_by cs.length
decreasing_by
  have hbreak := length_lt_of_dropBreak? _h
  have hcomment := length_skipComment_le (skipSpaces cs)
  have hspaces := length_skipSpaces_le cs
  omega

theorem length_skipLines_le (cs : List Char) : (skipLines cs).length ≤ cs.length := by
  fun_induction skipLines cs with
  | case1 cs rest h ih =>
      have hbreak := length_lt_of_dropBreak? h
      have hcomment := length_skipComment_le (skipSpaces cs)
      have hspaces := length_skipSpaces_le cs
      omega
  | case2 cs h =>
      have hcomment := length_skipComment_le (skipSpaces cs)
      have hspaces := length_skipSpaces_le cs
      omega

def hexDigit? (c : Char) : Option Nat :=
  if c.isDigit then some (c.toNat - '0'.toNat)
  else if 'a' ≤ c ∧ c ≤ 'f' then some (c.toNat - 'a'.toNat + 10)
  else if 'A' ≤ c ∧ c ≤ 'F' then some (c.toNat - 'A'.toNat + 10)
  else none

def hexChar? (digits : List Char) : Option Char := do
  let values ← digits.mapM hexDigit?
  let point := values.foldl (fun sum digit => 16 * sum + digit) 0
  if point.isValidChar then some (Char.ofNat point) else none

/-- The character that an escape stands for, after its backslash. -/
def takeEscape : (cs : List Char) → Option (Taken Char cs)
  | 'b' :: rest => some ⟨'\x08', rest, Nat.lt_succ_self _⟩
  | 't' :: rest => some ⟨'\t', rest, Nat.lt_succ_self _⟩
  | 'n' :: rest => some ⟨'\n', rest, Nat.lt_succ_self _⟩
  | 'f' :: rest => some ⟨'\x0c', rest, Nat.lt_succ_self _⟩
  | 'r' :: rest => some ⟨'\r', rest, Nat.lt_succ_self _⟩
  | 'e' :: rest => some ⟨'\x1b', rest, Nat.lt_succ_self _⟩
  | '"' :: rest => some ⟨'"', rest, Nat.lt_succ_self _⟩
  | '\\' :: rest => some ⟨'\\', rest, Nat.lt_succ_self _⟩
  | 'x' :: a :: b :: rest =>
      (hexChar? [a, b]).map fun c => ⟨c, rest, by simp only [List.length_cons]; omega⟩
  | 'u' :: a :: b :: c :: d :: rest =>
      (hexChar? [a, b, c, d]).map fun c => ⟨c, rest, by simp only [List.length_cons]; omega⟩
  | 'U' :: a :: b :: c :: d :: e :: f :: g :: h :: rest =>
      (hexChar? [a, b, c, d, e, f, g, h]).map fun c =>
        ⟨c, rest, by simp only [List.length_cons]; omega⟩
  | _ => none

/-- A string in double quotes, after its opening quote. -/
def takeBasic : (cs : List Char) → Option (Taken (List Char) cs)
  | [] => none
  | c :: rest =>
      if c = '"' then some ⟨[], rest, Nat.lt_succ_self _⟩
      else if c = '\\' then do
        let escape ← takeEscape rest
        have := escape.shorter
        let taken ← takeBasic escape.rest
        have := taken.shorter
        some ⟨escape.value :: taken.value, taken.rest, by simp only [List.length_cons]; omega⟩
      else if isPlain c then do
        let taken ← takeBasic rest
        have := taken.shorter
        some ⟨c :: taken.value, taken.rest, by simp only [List.length_cons]; omega⟩
      else none
termination_by cs => cs.length
decreasing_by all_goals simp only [List.length_cons]; omega

def takeLiteral : (cs : List Char) → Option (Taken (List Char) cs)
  | [] => none
  | c :: rest =>
      if c = '\'' then some ⟨[], rest, Nat.lt_succ_self _⟩
      else if isPlain c then do
        let taken ← takeLiteral rest
        have := taken.shorter
        some ⟨c :: taken.value, taken.rest, by simp only [List.length_cons]; omega⟩
      else none

/-- The text after the line break that a string over several lines may begin with. -/
def dropFirstBreak (cs : List Char) : List Char :=
  (dropBreak? cs).getD cs

theorem length_dropFirstBreak_le (cs : List Char) : (dropFirstBreak cs).length ≤ cs.length := by
  unfold dropFirstBreak
  cases h : dropBreak? cs with
  | none => exact Nat.le_refl _
  | some rest => exact Nat.le_of_lt (length_lt_of_dropBreak? h)

def skipBreaks (cs : List Char) : List Char :=
  match _h : dropBreak? (skipSpaces cs) with
  | some rest => skipBreaks rest
  | none => skipSpaces cs
termination_by cs.length
decreasing_by
  have hbreak := length_lt_of_dropBreak? _h
  have hspaces := length_skipSpaces_le cs
  omega

theorem length_skipBreaks_le (cs : List Char) : (skipBreaks cs).length ≤ cs.length := by
  fun_induction skipBreaks cs with
  | case1 cs rest h ih =>
      have hbreak := length_lt_of_dropBreak? h
      have hspaces := length_skipSpaces_le cs
      omega
  | case2 cs h => exact length_skipSpaces_le cs

def beginsBreak (cs : List Char) : Bool :=
  (dropBreak? cs).isSome

/-- A string over several lines, after its opening quotes. Its line breaks are kept as they are. Up
to two quotes may stand together in it, also at its end, and a backslash at the end of a line joins
the lines if there are escapes. -/
def takeLines (quote : Char) (escapes : Bool) (cs : List Char) :
    Option (Taken (List Char) cs) :=
  match cs with
  | [] => none
  | c :: rest =>
      if c = quote then
        let more := rest.takeWhile (· == quote)
        if more.length < 2 then do
          let taken ← takeLines quote escapes rest
          have := taken.shorter
          some ⟨c :: taken.value, taken.rest, by simp only [List.length_cons]; omega⟩
        else
          let closing := min more.length 4
          some ⟨List.replicate (closing - 2) quote, rest.drop closing, by
            simp only [List.length_drop, List.length_cons]; omega⟩
      else if c = '\\' ∧ escapes then
        match _h : dropBreak? (skipSpaces rest) with
        | some joined => do
            have := length_lt_of_dropBreak? _h
            have := length_skipSpaces_le rest
            have := length_skipBreaks_le joined
            let taken ← takeLines quote escapes (skipBreaks joined)
            have := taken.shorter
            some ⟨taken.value, taken.rest, by simp only [List.length_cons]; omega⟩
        | none => do
            let escape ← takeEscape rest
            have := escape.shorter
            let taken ← takeLines quote escapes escape.rest
            have := taken.shorter
            some ⟨escape.value :: taken.value, taken.rest, by
              simp only [List.length_cons]; omega⟩
      else if isPlain c || beginsBreak (c :: rest) then do
        let taken ← takeLines quote escapes rest
        have := taken.shorter
        some ⟨c :: taken.value, taken.rest, by simp only [List.length_cons]; omega⟩
      else none
termination_by cs.length
decreasing_by all_goals simp only [List.length_cons] at *; omega

def takeString : (cs : List Char) → Option (Taken String cs)
  | '"' :: '"' :: '"' :: rest =>
      (takeLines '"' true (dropFirstBreak rest)).map fun taken =>
        ⟨String.ofList taken.value, taken.rest, by
          have := taken.shorter
          have := length_dropFirstBreak_le rest
          simp only [List.length_cons]
          omega⟩
  | '\'' :: '\'' :: '\'' :: rest =>
      (takeLines '\'' false (dropFirstBreak rest)).map fun taken =>
        ⟨String.ofList taken.value, taken.rest, by
          have := taken.shorter
          have := length_dropFirstBreak_le rest
          simp only [List.length_cons]
          omega⟩
  | '"' :: rest =>
      (takeBasic rest).map fun taken =>
        ⟨String.ofList taken.value, taken.rest, taken.length_lt_succ⟩
  | '\'' :: rest =>
      (takeLiteral rest).map fun taken =>
        ⟨String.ofList taken.value, taken.rest, taken.length_lt_succ⟩
  | _ => none

end Retrieval.Toml
