import Worksheet.Number.Binary64
import Worksheet.Text.Blank
import Worksheet.Text.Digits

/-!
# Reading numbers

A number is written with an optional sign, digits with an optional point among or around them, and
an optional exponent; or it is one of the names of infinity and of what is not a number, in either
case of letters. The digits may be as many as one likes: the result is the double nearest to the
number that they stand for.
-/

namespace Worksheet.Number

/-- A number as it is written: the digits before and after the point, and the power of ten. -/
structure Numeral where
  whole : List Char
  fraction : List Char
  /-- The exponent has a minus sign. -/
  downwards : Bool
  exponent : Nat
deriving DecidableEq, Repr

/-- A power of ten past any double by more than its digits can make up for. -/
def farExponent : Nat := 400

/-- The digits of a numeral as one number, the point left out. -/
def Numeral.coefficient (numeral : Numeral) : Nat :=
  (Text.number? 10 (numeral.whole ++ numeral.fraction)).getD 0

/-- The bits of the magnitude nearest to a numeral. A far exponent is not multiplied out. -/
def Numeral.bits (numeral : Numeral) : Nat :=
  let coefficient := numeral.coefficient
  let places := numeral.fraction.length
  if coefficient = 0 then
    0
  else if numeral.downwards then
    if numeral.exponent > numeral.whole.length + places + farExponent then 0
    else magnitudeBits coefficient (Nat.pow 10 (places + numeral.exponent))
  else
    if numeral.exponent > places + farExponent then infinityBits
    else
      magnitudeBits (coefficient * Nat.pow 10 (numeral.exponent - places))
        (Nat.pow 10 (places - numeral.exponent))

/-- Splits off a sign, and says whether it is a minus. -/
def splitSign (text : List Char) : Bool × List Char :=
  match text with
  | '-' :: rest => (true, rest)
  | '+' :: rest => (false, rest)
  | rest => (false, rest)

/-- Reads what may follow the digits: nothing, or an exponent up to the end. -/
def exponentOf? (text : List Char) : Option (Bool × Nat) :=
  match text with
  | [] => some (false, 0)
  | mark :: rest =>
    let (negative, digits) := splitSign rest
    if (mark = 'e' ∨ mark = 'E') ∧ digits ≠ [] then
      (Text.number? 10 digits).map fun exponent => (negative, exponent)
    else
      none

/-- Reads digits with an optional point, of which at least one is there, and an exponent. -/
def numeralOf? (text : List Char) : Option Numeral :=
  let whole := text.takeWhile Char.isDigit
  let rest := text.dropWhile Char.isDigit
  let (fraction, rest) :=
    match rest with
    | '.' :: tail => (tail.takeWhile Char.isDigit, tail.dropWhile Char.isDigit)
    | rest => ([], rest)
  if whole = [] ∧ fraction = [] then
    none
  else
    (exponentOf? rest).map fun (downwards, exponent) => { whole, fraction, downwards, exponent }

/-- Reads the bits of a magnitude. -/
def magnitudeOf? (text : List Char) : Option Nat :=
  let name := text.map Char.toLower
  if name = "inf".toList ∨ name = "infinity".toList then some infinityBits
  else if name = "nan".toList then some nanBits
  else (numeralOf? text).map Numeral.bits

/-- Reads a number, without blanks around it. -/
def ofText? (text : String) : Option Float :=
  let (negative, rest) := splitSign text.toList
  (magnitudeOf? rest).map (ofMagnitude negative)

/-- Reads the displayed value of a cell as a number, if it is one. -/
def ofValue? (value : String) : Option Float :=
  ofText? (Text.trim value)

end Worksheet.Number
