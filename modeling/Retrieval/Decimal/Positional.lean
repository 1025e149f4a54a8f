import Retrieval.Decimal.Shortest

/-!
Numbers in positional notation. A number is written with the fewest digits that read back as the
same number, never with an exponent, and without a point when it is whole. A numeral is read to
the nearest number; one that is too large becomes infinite.
-/

namespace Retrieval.Decimal

def Scaled.positional (number : Scaled) : List Char :=
  let digits := Nat.toDigits 10 number.digits
  if 0 ≤ number.exponent then
    digits ++ List.replicate number.exponent.toNat '0'
  else
    let places := (-number.exponent).toNat
    let padded := List.replicate (places + 1 - digits.length) '0' ++ digits
    padded.take (padded.length - places) ++ '.' :: padded.drop (padded.length - places)

/-- The text of a number without its sign, from the two fields that encode it. -/
def magnitude (biased fraction : Nat) : List Char :=
  if biased = 2047 then
    if fraction = 0 then ['i', 'n', 'f'] else ['N', 'a', 'N']
  else if biased = 0 then
    if fraction = 0 then ['0'] else (Rounding.ofDouble fraction 1).shortest.positional
  else (Rounding.ofDouble (Nat.pow 2 52 + fraction) biased).shortest.positional

def write (number : Float) : String :=
  let bits := number.toBits.toNat
  let digits := magnitude (bits / Nat.pow 2 52 % Nat.pow 2 11) (bits % Nat.pow 2 52)
  if bits / Nat.pow 2 63 = 0 ∨ number.isNaN then String.ofList digits
  else String.ofList ('-' :: digits)

/-- A numeral that was cut into the digits before its point and those after it. -/
structure Numeral where
  whole : List Char
  point : Bool
  fraction : List Char
  deriving DecidableEq, Repr

def Numeral.chars (numeral : Numeral) : List Char :=
  numeral.whole ++ if numeral.point then '.' :: numeral.fraction else []

/-- The longest numeral at the start of a text, and the rest of the text. -/
def Numeral.scan (cs : List Char) : Numeral × List Char :=
  let whole := cs.takeWhile Char.isDigit
  match cs.dropWhile Char.isDigit with
  | '.' :: rest =>
      (⟨whole, true, rest.takeWhile Char.isDigit⟩, rest.dropWhile Char.isDigit)
  | rest => (⟨whole, false, []⟩, rest)

def Numeral.value? (numeral : Numeral) : Option Float :=
  let digits := numeral.whole ++ numeral.fraction
  if digits.isEmpty then none
  else some (Float.ofScientific (Nat.ofDigitChars 10 digits 0) true numeral.fraction.length)

def read? (cs : List Char) : Option Float :=
  match Numeral.scan cs with
  | (numeral, []) => numeral.value?
  | _ => none

/-- Reads a number with an optional minus sign, or one of the texts of the numbers that have no
digits. -/
def parse? (text : String) : Option Float :=
  match text.toList with
  | ['N', 'a', 'N'] => some (0 / 0)
  | ['i', 'n', 'f'] => some (1 / 0)
  | ['-', 'i', 'n', 'f'] => some (-1 / 0)
  | '-' :: cs => (read? cs).map (- ·)
  | cs => read? cs

end Retrieval.Decimal
