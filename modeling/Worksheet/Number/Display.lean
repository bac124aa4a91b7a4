import Worksheet.Number.Shortest

/-!
# Displaying numbers

A number is displayed by its shortest decimal, all places written out and never with an exponent.
Zero keeps its sign, and the results that no decimal stands for have names.
-/

namespace Worksheet.Number

/-- So many places of a fraction behind the point, without the zeros that end them. -/
def fractionDigits (places fraction : Nat) : List Char :=
  let digits := Nat.toDigits 10 fraction
  ((List.replicate (places - digits.length) '0' ++ digits).reverse.dropWhile (· == '0')).reverse

/-- A decimal with all its places. -/
def positional (decimal : Decimal) : String :=
  let one := Nat.pow 10 decimal.places
  let whole := Nat.repr (decimal.coefficient / one)
  let fraction := decimal.coefficient % one
  if fraction = 0 then whole
  else whole ++ "." ++ String.ofList (fractionDigits decimal.places fraction)

/-- The text of a magnitude that is a number. -/
def magnitudeText (bits : Nat) : String :=
  if bits = infinityBits then "Infinity" else positional (shortestDecimal bits)

/-- The text that a number is displayed with. -/
def display (x : Float) : String :=
  let bits := magnitudeOf x
  if infinityBits < bits then "NaN"
  else if isNegative x then "-" ++ magnitudeText bits
  else magnitudeText bits

end Worksheet.Number
