import Retrieval.Toml.Text
import Retrieval.Toml.Value

/-!
The values of a TOML document that are written without quotes or brackets around them: booleans,
integers in four bases, floats, dates and times. The outline of a number is checked here; whether an
integer with that outline has a number at all matters only where the number is wanted.
-/

namespace Retrieval.Toml

def dropSign : List Char → List Char
  | '+' :: cs => cs
  | '-' :: cs => cs
  | cs => cs

/-- Whether each underscore of a text stands between two digits. The flag tells whether a digit
stands before the text. -/
def underscoresFit (isDigit : Char → Bool) : Bool → List Char → Bool
  | _, [] => true
  | afterDigit, c :: cs =>
      if c = '_' then afterDigit && cs.head?.any isDigit && underscoresFit isDigit false cs
      else underscoresFit isDigit (isDigit c) cs

def withoutUnderscores (cs : List Char) : List Char :=
  cs.filter (· != '_')

def isDigitOf (base : Nat) (c : Char) : Bool :=
  (hexDigit? c).any (· < base)

def decimal? (digits : List Char) : Option Nat :=
  if digits ≠ [] ∧ digits.all Char.isDigit then some (Nat.ofDigitChars 10 digits 0) else none

def signedDecimal? : List Char → Option Int
  | '+' :: digits => (decimal? digits).map Int.ofNat
  | '-' :: digits => (decimal? digits).map fun n => -(n : Int)
  | digits => (decimal? digits).map Int.ofNat

def inBase? (base : Nat) (digits : List Char) : Option Nat :=
  if digits = [] then none
  else
    (digits.mapM hexDigit?).map fun values =>
      values.foldl (fun sum digit => base * sum + digit) 0

def basedInteger? (base : Nat) (cs : List Char) : Option Value :=
  let digits := withoutUnderscores cs
  if digits.all (isDigitOf base) && underscoresFit (isDigitOf 16) false cs then
    some (.integer ((inBase? base digits).map Int.ofNat))
  else none

def inGroup (c : Char) : Bool :=
  c.isDigit || c == '_'

def isExponent : List Char → Bool
  | c :: cs =>
      (c == 'e' || c == 'E') && (dropSign cs).all inGroup && (dropSign cs).any Char.isDigit
  | [] => false

/-- Whether a text has the parts of a float without its sign. A whole part of several digits does
not begin with a zero. -/
def isUnsignedFloat (cs : List Char) : Bool :=
  let whole := cs.takeWhile inGroup
  whole.any Char.isDigit && !(whole.head? == some '0' && 1 < whole.countP Char.isDigit) &&
    match cs.dropWhile inGroup with
    | '.' :: rest =>
        let exponent := rest.dropWhile inGroup
        (rest.takeWhile inGroup).any Char.isDigit && (exponent.isEmpty || isExponent exponent)
    | rest => isExponent rest

def twoDigits? (tens ones : Char) : Option Nat :=
  if tens.isDigit ∧ ones.isDigit then some (Nat.ofDigitChars 10 [tens, ones] 0) else none

def daysOfMonth (year month : Nat) : Nat :=
  if month = 2 then
    if year % 4 = 0 ∧ (year % 100 ≠ 0 ∨ year % 400 = 0) then 29 else 28
  else if month = 4 ∨ month = 6 ∨ month = 9 ∨ month = 11 then 30
  else 31

def isDate : List Char → Bool
  | [y₁, y₂, y₃, y₄, '-', m₁, m₂, '-', d₁, d₂] =>
      match twoDigits? y₁ y₂, twoDigits? y₃ y₄, twoDigits? m₁ m₂, twoDigits? d₁ d₂ with
      | some century, some year, some month, some day =>
          1 ≤ month && month ≤ 12 && 1 ≤ day && day ≤ daysOfMonth (100 * century + year) month
      | _, _, _, _ => false
  | _ => false

def isUpTo (limit : Nat) (tens ones : Char) : Bool :=
  (twoDigits? tens ones).any (· ≤ limit)

/-- Whether a text is the part of a time after its minutes. -/
def isSeconds : List Char → Bool
  | [] => true
  | [':', s₁, s₂] => isUpTo 60 s₁ s₂
  | ':' :: s₁ :: s₂ :: '.' :: fraction =>
      isUpTo 60 s₁ s₂ && !fraction.isEmpty && fraction.all Char.isDigit
  | _ => false

def isTime : List Char → Bool
  | h₁ :: h₂ :: ':' :: m₁ :: m₂ :: seconds =>
      isUpTo 23 h₁ h₂ && isUpTo 59 m₁ m₂ && isSeconds seconds
  | _ => false

/-- Whether a text is nothing or the offset of a time from universal time. -/
def isOffset : List Char → Bool
  | [] => true
  | ['Z'] => true
  | ['z'] => true
  | [sign, h₁, h₂, ':', m₁, m₂] =>
      (sign == '+' || sign == '-') && isUpTo 23 h₁ h₂ && isUpTo 59 m₁ m₂
  | _ => false

def isDateTime (cs : List Char) : Bool :=
  let inTime := fun (c : Char) => c.isDigit || c == ':' || c == '.'
  isDate cs || isTime cs ||
    (isDate (cs.take 10) &&
      match cs.drop 10 with
      | [] => false
      | between :: rest =>
          (between == 'T' || between == 't' || between == ' ') &&
            isTime (rest.takeWhile inTime) && isOffset (rest.dropWhile inTime))

/-- Whether the first character after the leading digits makes a text a date or a time. -/
def beginsDateTime : List Char → Bool
  | c :: _ => c == '-' || c == ':'
  | [] => false

/-- The number, date or time that a text spells, the integers of other bases than ten left out.
What follows the leading digits decides which of them it has to be. An underscore among the digits
makes it an integer, which may then have letters and signs in it, but no number. -/
def decimalScalar? (cs : List Char) : Option Value :=
  let unsigned := dropSign cs
  let rest := unsigned.dropWhile Char.isDigit
  if unsigned = ['i', 'n', 'f'] ∨ unsigned = ['n', 'a', 'n'] then
    some (.float (String.ofList cs))
  else if beginsDateTime rest then
    if isDateTime cs then some (.date (String.ofList cs)) else none
  else if rest.contains ' ' then none
  else if rest.any fun c => c == '.' || c == 'e' || c == 'E' then
    if isUnsignedFloat unsigned && underscoresFit Char.isDigit false unsigned then
      some (.float (String.ofList cs))
    else none
  else
    match unsigned with
    | [] => none
    | '0' :: _ :: _ => none
    | _ =>
        if (rest.isEmpty || rest.head? == some '_') &&
            underscoresFit (isDigitOf 16) false unsigned then
          some (.integer (signedDecimal? (withoutUnderscores cs)))
        else none

def scalar? : List Char → Option Value
  | ['t', 'r', 'u', 'e'] => some (.boolean true)
  | ['f', 'a', 'l', 's', 'e'] => some (.boolean false)
  | '0' :: 'x' :: cs => basedInteger? 16 cs
  | '0' :: 'o' :: cs => basedInteger? 8 cs
  | '0' :: 'b' :: cs => basedInteger? 2 cs
  | cs => decimalScalar? cs

/-- Whether a character is no blank, no break and no mark that stands for itself. -/
def isOrdinary (c : Char) : Bool :=
  !([' ', '\t', '\r', '\n', '#', '.', ',', '=', '[', ']', '{', '}'].contains c)

/-- Whether a character may begin a part of a value without quotes. A quote may stand in it, but at
the beginning it opens a string. -/
def beginsOrdinary (c : Char) : Bool :=
  isOrdinary c && c != '"' && c != '\''

/-- The characters of a value without quotes. Blanks belong to it if one more part follows them, as
between a date and a time. -/
def scalarChars : List Char → List Char
  | [] => []
  | c :: cs =>
      if isOrdinary c || c == '.' ||
          (isSpace c && (cs.dropWhile isSpace).head?.any beginsOrdinary) then
        c :: scalarChars cs
      else []

def takeScalar (cs : List Char) : Option (Taken Value cs) :=
  let spelling := scalarChars cs
  if _h : spelling = [] ∨ cs = [] then none
  else
    (scalar? spelling).map fun value =>
      ⟨value, cs.drop spelling.length, by
        have hs := List.length_pos_iff.mpr (not_or.mp _h).1
        have hc := List.length_pos_iff.mpr (not_or.mp _h).2
        simp only [List.length_drop]
        omega⟩

end Retrieval.Toml
