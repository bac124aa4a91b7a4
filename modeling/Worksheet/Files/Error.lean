/-!
# Faults of files

Why a file cannot be read or written, with the messages of the operating system.
-/

namespace Worksheet

/-- The cause for which a file cannot be read or written. A cause without a name of its own is told
in the words of the operating system. -/
inductive FileError where
  | notFound
  | notDirectory
  | isDirectory
  | nameTooLong
  | notText
  | other (message : String)
deriving DecidableEq, Repr

/-- The message of a cause. -/
def FileError.message : FileError → String
  | notFound => "No such file or directory (os error 2)"
  | notDirectory => "Not a directory (os error 20)"
  | isDirectory => "Is a directory (os error 21)"
  | nameTooLong => "File name too long (os error 36)"
  | notText => "stream did not contain valid UTF-8"
  | other message => message

end Worksheet
