/-!
# Blanks

The blank characters of Unicode (its property `White_Space`), and the two things a sheet does with
them: names, numbers and colors are read without the blanks around them, and a formula is compiled
without any.
-/

namespace Worksheet.Text

/-- The 25 characters with the property `White_Space`. -/
def isBlank (c : Char) : Bool :=
  (0x09 ≤ c.val && c.val ≤ 0x0D) || c.val == 0x20 || c.val == 0x85 || c.val == 0xA0 ||
    c.val == 0x1680 || (0x2000 ≤ c.val && c.val ≤ 0x200A) || c.val == 0x2028 || c.val == 0x2029 ||
    c.val == 0x202F || c.val == 0x205F || c.val == 0x3000

/-- The text between the first and the last character that is not blank. -/
def trim (text : String) : String :=
  String.ofList (((text.toList.dropWhile isBlank).reverse.dropWhile isBlank).reverse)

/-- The characters of a text that are not blank. -/
def condense (text : String) : String :=
  String.ofList (text.toList.filter fun c => !isBlank c)

@[simp] theorem toList_condense (text : String) :
    (condense text).toList = text.toList.filter fun c => !isBlank c := by
  simp [condense]

end Worksheet.Text
