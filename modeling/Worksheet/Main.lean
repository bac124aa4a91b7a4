import Worksheet.CommandLine.Run

/-!
# The command line

The program by itself. It looks up the files that its options name, carries out the run on what it
has found, and then writes the files that the run has changed and prints its lines.
-/

namespace Worksheet.CommandLine

/-- The path of a place from the root. -/
def rootedText (place : Place) : String :=
  "/" ++ String.intercalate "/" place

/-- What is at a place, as far as it can be read. -/
def look (place : Place) : IO (Option FileNode) := do
  try
    return some (.file (← IO.FS.readBinFile (rootedText place)))
  catch
    | .inappropriateType .. => return some .directory
    | _ => return none

/-- Adds to a tree what is on the way along a path, as far as it leads through directories. -/
def survey (files : FileTree) (path : Path) : IO FileTree := do
  let mut files := files
  let mut place := files.start path
  for name in path.names do
    place := FileTree.enter place name
    if (files.node? place).isNone then
      match ← look place with
      | some node => files := files.put place node
      | none => return files
    if !files.isDirectory place then
      return files
  return files

/-- The names in the path of a directory. -/
def placeOf (path : String) : Place :=
  Path.names ⟨.working, path⟩

/-- The files that a run may read or write, as they are. -/
def surveyAll (paths : List Path) : IO FileTree := do
  let working := placeOf (← IO.FS.realPath ".").toString
  let home := ((← IO.getEnv "HOME").map placeOf).getD working
  paths.foldlM survey (FileTree.blank working home)

/-- Runs the program, and gives its exit code. -/
def runProgram (arguments : List String) : IO UInt32 := do
  let paths :=
    match Options.ofArguments arguments with
    | .ok (some options) => options.paths
    | _ => []
  let files ← surveyAll paths
  let outcome := run arguments files
  for (place, content) in outcome.files.changedFiles files do
    IO.FS.writeBinFile (rootedText place) content
  outcome.messages.forM IO.eprintln
  outcome.output.forM IO.println
  return if outcome.success then 0 else 1

end Worksheet.CommandLine

/-- Starts the program, and prints why it cannot read or write a file. -/
def main (arguments : List String) : IO UInt32 := do
  try
    Worksheet.CommandLine.runProgram arguments
  catch error =>
    IO.eprintln (Worksheet.CommandLine.failureLine [toString error])
    return 1
