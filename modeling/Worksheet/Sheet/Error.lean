import Worksheet.CellRef
import Worksheet.Files.Error
import Worksheet.Markup.Error
import Worksheet.Text.Quoted

/-!
# Why an operation on a sheet fails

The causes for which editing, loading or saving a sheet fails, each with its message. A cause that
wraps another one names it, and `chain` lists the messages from the outermost to the innermost.
-/

namespace Worksheet

/-- The cause for which an operation on a sheet fails. -/
inductive SheetError where
  | file (cause : FileError)
  | markup (cause : MarkupError)
  | attributes (cause : AttributeError)
  | missingAttribute (element key : String)
  | invalidCellName (name : String)
  | invalidColor (text : String)
  | invalidDimensions (rows columns : Nat)
  | outOfBounds (cell : CellRef)
  | noFilePath
  | nothingToUndo
  | nothingToRedo
deriving DecidableEq, Repr

namespace SheetError

/-- The message of a cause. -/
def message : SheetError → String
  | file cause => "IO error: " ++ cause.message
  | markup cause => "XML error: " ++ cause.message
  | attributes cause => "XML attribute error: " ++ cause.message
  | missingAttribute element key => "<" ++ element ++ "> is missing the " ++ Text.quote key ++
      " attribute"
  | invalidCellName name => "Invalid cell name: " ++ Text.quote name
  | invalidColor text => "Invalid background color: " ++ Text.quote text
  | invalidDimensions rows columns => "Invalid sheet dimensions: " ++ Nat.repr rows ++ " rows x " ++
      Nat.repr columns ++ " columns"
  | outOfBounds cell => "Cell " ++ cell.name ++ " is outside the sheet"
  | noFilePath => "No file path set"
  | nothingToUndo => "Nothing to undo"
  | nothingToRedo => "Nothing to redo"

/-- The messages of a cause and of those that it wraps, the outermost first. -/
def chain (error : SheetError) : List String :=
  error.message ::
    match error with
    | file cause => [cause.message]
    | markup cause => cause.message :: cause.causes
    | attributes cause => [cause.message]
    | _ => []

end SheetError

end Worksheet
