import Worksheet.Files.Path

/-!
# Trees of files

A tree of files as far as a program sees it: what is at which place, and where the working and the
home directory are. Paths are followed name by name, and all names but the last have to lead to
directories.

Writing gives the tree with the new content, and no other file of it is touched.
-/

namespace Worksheet

/-- The names that lead to a place from the root. -/
abbrev Place := List String

/-- What is at a place. -/
inductive FileNode where
  | file (content : ByteArray)
  | directory

/-- A node is a file with certain bytes. -/
def FileNode.holds (content : ByteArray) : FileNode → Bool
  | file held => held.data == content.data
  | directory => false

/-- A tree of files, which has each place once, and the directories at which paths start. -/
structure FileTree where
  entries : List (Place × FileNode)
  working : Place
  home : Place

namespace FileTree

/-- What is at a place. The root is a directory. -/
def node? (tree : FileTree) (place : Place) : Option FileNode :=
  match place with
  | [] => some .directory
  | _ :: _ => tree.entries.lookup place

/-- A directory is at a place. -/
def isDirectory (tree : FileTree) (place : Place) : Bool :=
  match tree.node? place with
  | some .directory => true
  | _ => false

/-- Puts something at a place, instead of what is there. -/
def put (tree : FileTree) (place : Place) (node : FileNode) : FileTree :=
  { tree with entries := (place, node) :: tree.entries.filter fun entry => entry.1 ≠ place }

/-- Makes directories of a place and of all places on the way to it where nothing is yet. -/
def makeDirectories (tree : FileTree) (place : Place) : FileTree :=
  (List.range place.length).foldl (fun tree count =>
    let way := place.take (count + 1)
    if (tree.node? way).isSome then tree else tree.put way .directory) tree

/-- Puts something at a place and makes the directories that lead there. -/
def install (tree : FileTree) (place : Place) (node : FileNode) : FileTree :=
  (tree.makeDirectories place.dropLast).put place node

/-- A tree with nothing but a working and a home directory. -/
def blank (working home : Place) : FileTree :=
  (FileTree.makeDirectories ⟨[], working, home⟩ working).makeDirectories home

/-- The place where a path starts. -/
def start (tree : FileTree) (path : Path) : Place :=
  if path.isAbsolute then []
  else
    match path.base with
    | .working => tree.working
    | .home => tree.home

/-- The place that a name leads to from a directory: two dots lead back, and one dot stays. -/
def enter (place : Place) (name : String) : Place :=
  if name = ".." then place.dropLast else if name = "." then place else place ++ [name]

/-- Refuses a place where no directory is. -/
def requireDirectory (tree : FileTree) (place : Place) : Except FileError Unit :=
  match tree.node? place with
  | none => throw .notFound
  | some (.file _) => throw .notDirectory
  | some .directory => pure ()

/-- Follows names from a place to another one, where nothing has to be yet. -/
def follow (tree : FileTree) (place : Place) : List String → Except FileError Place
  | [] => pure place
  | name :: names => do
    tree.requireDirectory place
    if Path.maxNameBytes < name.utf8ByteSize then throw .nameTooLong
    else tree.follow (enter place name) names

/-- The place that a path leads to. -/
def locate (tree : FileTree) (path : Path) : Except FileError Place := do
  path.check
  tree.follow (tree.start path) path.names

/-- What is at the end of a path. -/
def find (tree : FileTree) (path : Path) : Except FileError FileNode := do
  match tree.node? (← tree.locate path) with
  | none => throw .notFound
  | some .directory => pure .directory
  | some (.file content) =>
    if path.isDirectoryPath then throw .notDirectory else pure (.file content)

/-- There is something at the end of a path. -/
def contains (tree : FileTree) (path : Path) : Bool :=
  (tree.find path).isOk

/-- The number of bytes of the file at the end of a path. -/
def size (tree : FileTree) (path : Path) : Except FileError Nat := do
  match ← tree.find path with
  | .directory => pure 0
  | .file content => pure content.size

/-- The bytes of the file at the end of a path. -/
def readBytes (tree : FileTree) (path : Path) : Except FileError ByteArray := do
  match ← tree.find path with
  | .directory => throw .isDirectory
  | .file content => pure content

/-- The text of the file at the end of a path. -/
def readText (tree : FileTree) (path : Path) : Except FileError String := do
  match String.fromUTF8? (← tree.readBytes path) with
  | some text => pure text
  | none => throw .notText

/-- Writes a file at the end of a path, which may be a new one in a directory that is there. The
last name of a path that can only be a directory's is not looked at, be it too long or not. -/
def writeBytes (tree : FileTree) (path : Path) (content : ByteArray) :
    Except FileError FileTree := do
  path.check
  if path.isDirectoryPath then
    tree.requireDirectory (← tree.follow (tree.start path) path.names.dropLast)
    throw .isDirectory
  else
    let place ← tree.follow (tree.start path) path.names
    if tree.isDirectory place then throw .isDirectory
    else pure (tree.put place (.file content))

/-- Writes a text to a file at the end of a path. -/
def writeText (tree : FileTree) (path : Path) (text : String) : Except FileError FileTree :=
  tree.writeBytes path text.toUTF8

/-- The files of a tree, with their places. -/
def files (tree : FileTree) : List (Place × ByteArray) :=
  tree.entries.filterMap fun (place, node) =>
    match node with
    | .file content => some (place, content)
    | .directory => none

/-- The files of a tree that are new or other ones than in an earlier tree. -/
def changedFiles (tree earlier : FileTree) : List (Place × ByteArray) :=
  tree.files.filter fun (place, content) =>
    !(earlier.node? place).any (FileNode.holds content)

/-! ### What is where after a change -/

theorem lookup_filter_ne {β : Type} {place other : Place} (different : other ≠ place)
    (entries : List (Place × β)) :
    (entries.filter fun entry => entry.1 ≠ place).lookup other = entries.lookup other := by
  induction entries with
  | nil => rfl
  | cons entry entries ih =>
    obtain ⟨key, value⟩ := entry
    by_cases same : key = place
    · subst same
      simp_all [List.lookup_cons, beq_eq_false_iff_ne.mpr different]
    · simp_all [List.lookup_cons]

/-- What was put at a place is there. -/
theorem node?_put_self (tree : FileTree) {place : Place} (node : FileNode) (proper : place ≠ []) :
    (tree.put place node).node? place = some node := by
  cases place with
  | nil => exact absurd rfl proper
  | cons name names => simp [node?, put]

/-- All other places are as they were. -/
theorem node?_put_of_ne (tree : FileTree) {place other : Place} (node : FileNode)
    (different : other ≠ place) : (tree.put place node).node? other = tree.node? other := by
  cases other with
  | nil => rfl
  | cons name names =>
    have apart : ((name :: names) == place) = false := beq_eq_false_iff_ne.mpr different
    simp only [node?, put, List.lookup_cons, apart]
    exact lookup_filter_ne different _

end FileTree

end Worksheet
