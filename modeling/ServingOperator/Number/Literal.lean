-- Decimal numbers as they are written: digits, perhaps with a point before,
-- among or after them, and perhaps an exponent.
import ServingOperator.Number.Binary64

namespace ServingOperator.Number

def digitsValue (cs : List Char) : Nat := Nat.ofDigitChars 10 cs 0

/-- The digits that a text starts with, and the rest. -/
def spanDigits (cs : List Char) : List Char × List Char :=
  (cs.takeWhile Char.isDigit, cs.dropWhile Char.isDigit)

/-- A whole number that is all of the text, perhaps with a sign. -/
def exponentValue? (cs : List Char) : Option Int :=
  let (negative, digits) := match cs with
    | '-' :: rest => (true, rest)
    | '+' :: rest => (false, rest)
    | cs => (false, cs)
  if digits ≠ [] ∧ digits.all Char.isDigit then
    some (if negative then -(digitsValue digits : Int) else digitsValue digits)
  else none

/-- The number that a text without a sign spells. -/
def decimal? (cs : List Char) : Option Decimal := do
  let (whole, rest) := spanDigits cs
  let (fraction, rest) := match rest with
    | '.' :: rest => spanDigits rest
    | rest => ([], rest)
  if whole = [] ∧ fraction = [] then none
  let exponent ← match rest with
    | [] => some 0
    | 'e' :: rest => exponentValue? rest
    | 'E' :: rest => exponentValue? rest
    | _ => none
  some ⟨digitsValue (whole ++ fraction), exponent - fraction.length⟩

end ServingOperator.Number
