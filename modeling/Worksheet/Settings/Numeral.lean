import Worksheet.Text.Digits
import Worksheet.Text.Fields

/-!
# Numbers of a settings file

A number has decimal digits without a leading zero, perhaps behind a sign, or digits of another base
behind `0x`, `0o` or `0b`. An underscore may stand between two digits. Only numbers of 63 bits that
are not negative count anything.
-/

namespace Worksheet.Settings

/-- The least number that does not fit in a word with a sign. -/
def integerLimit : Nat := Nat.pow 2 63

/-- The number of digits in groups, with one underscore between each two groups, or the limit if it
is not less. -/
def grouped? (base : Nat) (digits : List Char) : Option Nat :=
  if (Text.fields '_' digits).any List.isEmpty then none
  else Text.numberUpTo? integerLimit base (digits.filter (· ≠ '_'))

/-- The number of decimal digits without a leading zero. -/
def decimal? (digits : List Char) : Option Nat :=
  match digits with
  | '0' :: _ :: _ => none
  | digits => grouped? 10 digits

/-- The number that some characters stand for. -/
def natural? (chars : List Char) : Option Nat :=
  let number? :=
    match chars with
    | '0' :: 'x' :: digits => grouped? 16 digits
    | '0' :: 'o' :: digits => grouped? 8 digits
    | '0' :: 'b' :: digits => grouped? 2 digits
    | '+' :: digits => decimal? digits
    | '-' :: digits => (decimal? digits).filter (· = 0)
    | digits => decimal? digits
  number?.filter (· < integerLimit)

end Worksheet.Settings
