/-!
# Fields

The runs of characters between separators. There is one more of them than there are separators, and
a run may be empty.
-/

namespace Worksheet.Text

/-- The runs of characters between separators, in order. -/
def fields (separator : Char) (chars : List Char) : List (List Char) :=
  chars.foldr (fun c fields =>
    if c = separator then [] :: fields
    else
      match fields with
      | field :: rest => (c :: field) :: rest
      | [] => [[c]]) [[]]

end Worksheet.Text
