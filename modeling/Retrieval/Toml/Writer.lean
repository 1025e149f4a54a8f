import Retrieval.Toml.Value

/-!
Writing TOML documents of sections. A string is written in the first form that takes it as it is,
tabs aside: in double quotes, in single quotes, or in the forms over several lines of either; a
string that no form takes is written with escapes. A list of more than one string takes one line for
each of them.
-/

namespace Retrieval.Toml

inductive Item where
  | integer (number : Nat)
  | boolean (flag : Bool)
  | strings (texts : List String)
  deriving DecidableEq, Repr

def Item.toValue : Item → Value
  | integer number => .integer (some number)
  | boolean flag => .boolean flag
  | strings texts => .array (texts.map Value.string)

def isControl (c : Char) : Bool :=
  (c.toNat ≤ 0x1F && c != '\t' && c != '\n') || c.toNat == 0x7F

def longestRun (c : Char) (cs : List Char) : Nat :=
  (cs.foldl (fun (run, longest) d =>
    if d = c then (run + 1, max longest (run + 1)) else (0, longest)) (0, 0)).2

/-- How a character other than the quote is written between double quotes. The line breaks of a
string over several lines stand for themselves. -/
def escape (severalLines : Bool) (c : Char) : List Char :=
  if c = '\\' then ['\\', '\\']
  else if c = '\n' then if severalLines then ['\n'] else ['\\', 'n']
  else if c = '\t' then ['\\', 't']
  else if c = '\r' then ['\\', 'r']
  else if c = '\x08' then ['\\', 'b']
  else if c = '\x0c' then ['\\', 'f']
  else if isControl c then
    ['\\', 'u', '0', '0', Nat.digitChar (c.toNat / 16), (Nat.digitChar (c.toNat % 16)).toUpper]
  else [c]

/-- The text between double quotes, after some quotes that stand for themselves. Over several lines
two quotes in a row may do so. -/
def escapeAll (severalLines : Bool) : Nat → List Char → List Char
  | _, [] => []
  | quotes, c :: cs =>
      if c = '"' then
        if severalLines && quotes < 2 then '"' :: escapeAll severalLines (quotes + 1) cs
        else '\\' :: '"' :: escapeAll severalLines 0 cs
      else escape severalLines c ++ escapeAll severalLines 0 cs

/-- What stands before the text of a string over several lines: if the text has a line break, one
that is not part of it. -/
def firstBreak (cs : List Char) : List Char :=
  if cs.contains '\n' then ['\n'] else []

def writeBasic (cs : List Char) : List Char :=
  '"' :: escapeAll false 0 cs ++ ['"']

def writeLiteral (cs : List Char) : List Char :=
  '\'' :: cs ++ ['\'']

def writeBasicLines (cs : List Char) : List Char :=
  ['"', '"', '"'] ++ firstBreak cs ++ escapeAll true 0 cs ++ ['"', '"', '"']

def writeLiteralLines (cs : List Char) : List Char :=
  ['\'', '\'', '\''] ++ firstBreak cs ++ cs ++ ['\'', '\'', '\'']

def writeString (cs : List Char) : List Char :=
  let controls := cs.any isControl
  let breaks := cs.contains '\n'
  let escapes := cs.contains '\\'
  let doubles := longestRun '"' cs
  let singles := longestRun '\'' cs
  if !controls && !escapes && doubles == 0 && !breaks then writeBasic cs
  else if !controls && singles == 0 && !breaks then writeLiteral cs
  else if !controls && !escapes && doubles ≤ 2 then writeBasicLines cs
  else if !controls && singles ≤ 2 then writeLiteralLines cs
  else if breaks then writeBasicLines cs
  else writeBasic cs

def Item.write : Item → List Char
  | integer number => Nat.toDigits 10 number
  | boolean true => ['t', 'r', 'u', 'e']
  | boolean false => ['f', 'a', 'l', 's', 'e']
  | strings [] => ['[', ']']
  | strings [text] => '[' :: writeString text.toList ++ [']']
  | strings texts =>
      ['[', '\n'] ++
        texts.flatMap (fun text =>
          [' ', ' ', ' ', ' '] ++ writeString text.toList ++ [',', '\n']) ++
        [']']

/-- A table of a document with its name. The names and keys need no quotes. -/
structure Section where
  name : String
  entries : List (String × Item)

def Section.write (part : Section) : List Char :=
  '[' :: part.name.toList ++ [']', '\n'] ++
    part.entries.flatMap fun entry =>
      entry.1.toList ++ [' ', '=', ' '] ++ entry.2.write ++ ['\n']

def write (sections : List Section) : String :=
  String.ofList (['\n'].intercalate (sections.map Section.write))

end Retrieval.Toml
