import Worksheet.Files.Tree

/-!
# Writing files

What was written at the end of a path is read there afterwards: the new content stands where the
path leads, and the directories on the way are as they were. A path at whose end a file can be read
is one at whose end a file can be written, since writing needs no more than reading does. So where
writing fails nothing can be read.
-/

namespace Worksheet.FileTree

variable {tree next : FileTree} {path : Path} {place last : Place} {content : ByteArray}

theorem requireDirectory_eq_ok_iff :
    tree.requireDirectory place = .ok () ↔ tree.node? place = some .directory := by
  unfold requireDirectory
  split
  next empty => simp [empty, throw, throwThe, MonadExceptOf.throw]
  next held => simp [held, throw, throwThe, MonadExceptOf.throw]
  next here => simp [here, pure, Except.pure]

/-- A name is followed from a directory, if it is not too long. -/
theorem follow_cons_eq_ok_iff {name : String} {names : List String} :
    tree.follow place (name :: names) = .ok last ↔
      tree.node? place = some .directory ∧ ¬ Path.maxNameBytes < name.utf8ByteSize ∧
        tree.follow (enter place name) names = .ok last := by
  rw [← requireDirectory_eq_ok_iff, follow]
  cases tree.requireDirectory place with
  | error cause => simp [bind, Except.bind]
  | ok _ =>
    by_cases long : Path.maxNameBytes < name.utf8ByteSize <;>
      simp [long, bind, Except.bind, throw, throwThe, MonadExceptOf.throw]

/-- Whatever is put where no directory is, names that led there lead there still. -/
theorem follow_put {names : List String} (plain : tree.isDirectory last = false) (node : FileNode)
    (leads : tree.follow place names = .ok last) :
    (tree.put last node).follow place names = .ok last := by
  induction names generalizing place with
  | nil => exact leads
  | cons name names ih =>
    obtain ⟨here, short, further⟩ := follow_cons_eq_ok_iff.mp leads
    have different : place ≠ last := by
      rintro rfl
      simp [isDirectory, here] at plain
    refine follow_cons_eq_ok_iff.mpr ⟨?_, short, ih further⟩
    rwa [node?_put_of_ne tree node different]

theorem locate_put (plain : tree.isDirectory place = false) (node : FileNode)
    (leads : tree.locate path = .ok place) : (tree.put place node).locate path = .ok place := by
  unfold locate at leads ⊢
  cases checked : path.check with
  | error cause => simp [checked, bind, Except.bind] at leads
  | ok _ =>
    rw [checked] at leads
    exact follow_put plain node leads

theorem isDirectory_eq_false_of_file (held : tree.node? place = some (.file content)) :
    tree.isDirectory place = false := by
  simp [isDirectory, held]

/-- What it takes to read a file. -/
theorem readBytes_eq_ok_iff : tree.readBytes path = .ok content ↔
    path.isDirectoryPath = false ∧
      ∃ place, tree.locate path = .ok place ∧ tree.node? place = some (.file content) := by
  unfold readBytes find
  cases tree.locate path with
  | error cause => simp [bind, Except.bind]
  | ok place =>
    rcases held : tree.node? place with _ | (bytes | _) <;> cases path.isDirectoryPath <;>
      simp [held, bind, Except.bind, pure, Except.pure, throw, throwThe, MonadExceptOf.throw]

/-- What it takes to write a file. -/
theorem writeBytes_eq_ok_iff : tree.writeBytes path content = .ok next ↔
    path.isDirectoryPath = false ∧
      ∃ place, tree.locate path = .ok place ∧ tree.isDirectory place = false ∧
        tree.put place (.file content) = next := by
  unfold writeBytes locate
  cases path.check with
  | error cause => simp [bind, Except.bind]
  | ok _ =>
    cases path.isDirectoryPath with
    | true =>
      cases tree.follow (tree.start path) path.names.dropLast with
      | error cause => simp [bind, Except.bind]
      | ok place =>
        cases found : tree.requireDirectory place <;>
          simp [found, bind, Except.bind, throw, throwThe, MonadExceptOf.throw]
    | false =>
      cases tree.follow (tree.start path) path.names with
      | error cause => simp [bind, Except.bind]
      | ok place =>
        cases plain : tree.isDirectory place <;>
          simp [plain, bind, Except.bind, pure, Except.pure, throw, throwThe, MonadExceptOf.throw]

/-- What was written is read. -/
theorem readBytes_of_writeBytes (written : tree.writeBytes path content = .ok next) :
    next.readBytes path = .ok content := by
  obtain ⟨ordinary, place, leads, plain, rfl⟩ := writeBytes_eq_ok_iff.mp written
  have proper : place ≠ [] := by
    rintro rfl
    simp [isDirectory, node?] at plain
  exact readBytes_eq_ok_iff.mpr
    ⟨ordinary, place, locate_put plain _ leads, node?_put_self tree _ proper⟩

/-- Where a file can be read, any content can be written. -/
theorem exists_writeBytes_of_readBytes {held : ByteArray} (read : tree.readBytes path = .ok held)
    (content : ByteArray) : ∃ next, tree.writeBytes path content = .ok next := by
  obtain ⟨ordinary, place, leads, file⟩ := readBytes_eq_ok_iff.mp read
  exact ⟨_, writeBytes_eq_ok_iff.mpr
    ⟨ordinary, place, leads, isDirectory_eq_false_of_file file, rfl⟩⟩

/-- A text that was written is read. -/
theorem readText_of_writeText {text : String} (written : tree.writeText path text = .ok next) :
    next.readText path = .ok text := by
  have encoded : String.fromUTF8? text.toByteArray = some text := dif_pos text.isValidUTF8
  rw [readText, readBytes_of_writeBytes written]
  simp [encoded, bind, Except.bind, pure, Except.pure]

/-- Where one text cannot be written, no other one can be read. -/
theorem not_readText_of_writeText {text : String} {cause : FileError}
    (failed : tree.writeText path text = .error cause) (other : String) :
    tree.readText path ≠ .ok other := by
  intro read
  cases held : tree.readBytes path with
  | error fault => simp [readText, held, bind, Except.bind] at read
  | ok bytes =>
    obtain ⟨next, written⟩ := exists_writeBytes_of_readBytes held text.toUTF8
    exact absurd (written.symm.trans failed) (by simp)

end Worksheet.FileTree
