import Worksheet.Files.Error
import Worksheet.Text.Fields

/-!
# Paths

A path is a text in which slashes separate the names of directories. One that does not start with a
slash starts at the working directory, or at the home directory if it is known to lie there; a path
of the second kind is shown with a tilde.
-/

namespace Worksheet

/-- The directory at which a path without a leading slash starts. -/
inductive Base where
  | working | home
deriving DecidableEq, Repr

/-- Where to look for a file: the names on the way, separated by slashes, and where they start. -/
structure Path where
  base : Base
  text : String
deriving DecidableEq, Repr

namespace Path

/-- The most bytes that a path may have, the one that ends it among them. -/
def maxBytes : Nat := 4096

/-- The most bytes that a name in a path may have. -/
def maxNameBytes : Nat := 255

/-- The names in a path, in order. Slashes that follow each other count as one. -/
def names (path : Path) : List String :=
  ((Text.fields '/' path.text.toList).filter fun name => !name.isEmpty).map String.ofList

/-- The path starts at the root. -/
def isAbsolute (path : Path) : Bool :=
  path.text.toList.head? == some '/'

/-- The path can only be that of a directory: it ends in a slash, or names the home directory. -/
def isDirectoryPath (path : Path) : Bool :=
  match path.text.toList.getLast? with
  | some c => c == '/'
  | none => path.base = .home

/-- The path as it is shown. -/
def shown (path : Path) : String :=
  match path.base with
  | .home => if path.isAbsolute then path.text else "~/" ++ path.text
  | .working => path.text

/-- Refuses a text that cannot be a path. -/
def check (path : Path) : Except FileError Unit :=
  if path.text.toList.contains '\x00' then
    throw (.other "file name contained an unexpected NUL byte")
  else if maxBytes ≤ path.text.utf8ByteSize then throw .nameTooLong
  else if path.text = "" ∧ path.base = .working then throw .notFound
  else pure ()

end Path

end Worksheet
