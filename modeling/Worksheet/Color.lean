import Worksheet.Text.Blank
import Worksheet.Text.Digits

/-!
# Background colors

A color is one 32-bit word, alpha first. Its text is eight hexadecimal digits, written in capitals
and read in either case.
-/

namespace Worksheet

/-- An opacity and three shades, one byte each, in a 32-bit word. -/
abbrev Color := UInt32

namespace Color

/-- Opaque white, the color of an untouched cell. -/
def default : Color := 0xFFFFFFFF

/-- The digit that stands for a number below sixteen. -/
def digit (value : Nat) : Char :=
  if value < 10 then Char.ofNat (48 + value) else Char.ofNat (55 + value)

/-- The eight digits of a color, most significant first. -/
def digits (color : Color) : List Char :=
  [28, 24, 20, 16, 12, 8, 4, 0].map fun shift => digit (color.toNat >>> shift % 16)

/-- The text of a color. -/
def text (color : Color) : String :=
  String.ofList color.digits

/-- Reads a color from exactly eight digits, blanks around them apart. -/
def ofText? (text : String) : Option Color :=
  let digits := (Text.trim text).toList
  if digits.length = 8 then (Text.number? 16 digits).map UInt32.ofNat else none

end Color

end Worksheet
