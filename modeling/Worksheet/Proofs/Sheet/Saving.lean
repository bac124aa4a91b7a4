import Worksheet.Proofs.Folds
import Worksheet.Proofs.Markup.Escape
import Worksheet.Proofs.Markup.Event
import Worksheet.Proofs.Text.Names
import Worksheet.Sheet.Records

/-!
# Writing and reading records

A document that was written from records is read record by record. Each record has its events, in
which its name, its color and its escaped text stand as they are; the blanks between the elements
are texts of their own, which a collector passes over. The color and the text of a record are read
back whatever they are. Its cell is read back just when its name is in A1 notation, as the names of
all cells are that a sheet may have.
-/

namespace Worksheet.CellRecord

open Markup (Event Reader Tag)
open Markup.Reader (Reads flushed)

/-! ### The events of a record -/

/-- The tag that starts the element of a cell with some name. -/
def cellTag (name : List Char) : Tag :=
  ⟨['c', 'e', 'l', 'l', ' ', 'n', 'a', 'm', 'e', '=', '\x22'] ++ name ++ ['\x22']⟩

theorem reverse_cellTag (name : List Char) :
    (⟨('\x22' :: (name.reverse ++ "cell name=\x22".toList.reverse)).reverse⟩ : Tag) =
      cellTag name := by
  rw [cellTag, List.reverse_cons, List.reverse_append, List.reverse_reverse, List.reverse_reverse]
  rfl

theorem name_cellTag (name : List Char) : (cellTag name).name = ['c', 'e', 'l', 'l'] := rfl

/-- The names of the elements inside a cell. -/
def bgColorName : List Char := ['b', 'g', 'c', 'o', 'l', 'o', 'r']

/-- The name of the element with the text. -/
def textName : List Char := ['t', 'e', 'x', 't']

/-- The events of a record that is written after other lines. -/
def eventsOf (record : CellRecord) : List Event :=
  [.text "\n  ", .start (cellTag record.cell.name.toList), .text "\n    ", .start ⟨bgColorName⟩] ++
    flushed (Color.text record.bgColor) [] ++
  [.stop bgColorName, .text "\n    ", .start ⟨textName⟩] ++
    flushed (Markup.escape record.text) [] ++
  [.stop textName, .text "\n  ", .stop ['c', 'e', 'l', 'l']]

/-- The lines of a record without the bracket that ends its closing tag. -/
def openLines (record : CellRecord) : String :=
  "  <cell name=\"" ++ record.cell.name ++ "\">\n" ++
  "    <bgcolor>" ++ Color.text record.bgColor ++ "</bgcolor>\n" ++
  "    <text>" ++ Markup.escape record.text ++ "</text>\n" ++
  "  </cell"

/-- The events of a record up to the end of its cell. -/
def openEvents (record : CellRecord) : List Event :=
  [.text "\n  ", .start (cellTag record.cell.name.toList), .text "\n    ", .start ⟨bgColorName⟩] ++
    flushed (Color.text record.bgColor) [] ++
  [.stop bgColorName, .text "\n    ", .start ⟨textName⟩] ++
    flushed (Markup.escape record.text) [] ++
  [.stop textName, .text "\n  "]

theorem lines_eq (record : CellRecord) : record.lines = record.openLines ++ (">" ++ "\n") := by
  have closing : "  </cell>\n" = "  </cell" ++ (">" ++ "\n") := rfl
  exact (congrArg (_ ++ ·) closing).trans String.append_assoc.symm

theorem eventsOf_eq (record : CellRecord) :
    record.eventsOf = record.openEvents ++ [.stop ['c', 'e', 'l', 'l']] := by
  simp [eventsOf, openEvents]

theorem flushed_append (text : String) (events : List Event) :
    flushed text events = flushed text [] ++ events := by
  unfold flushed
  split <;> rfl

theorem reverse_flushed (text : String) : (flushed text []).reverse = flushed text [] := by
  unfold flushed
  split <;> rfl

section Events

variable (opened : List (List Char)) (events : List Event)

/-- The tag that starts a cell, after its first bracket. -/
theorem foldl_cellTag {name : String} (unquoted : '\x22' ∉ name.toList) :
    ((cellTag name.toList).content ++ ['>']).foldl Reader.step ⟨.opening, opened, events⟩ =
      ⟨.text "", ['c', 'e', 'l', 'l'] :: opened, .start (cellTag name.toList) :: events⟩ := by
  -- Up to the name and from its end on the characters are known.
  have opens : ['c', 'e', 'l', 'l', ' ', 'n', 'a', 'm', 'e', '=', '\x22'].foldl Reader.step
      ⟨.opening, opened, events⟩ =
        ⟨.tag "cell name=\x22".toList.reverse (some '\x22'), opened, events⟩ := rfl
  have reads : name.toList.foldl Reader.step
      ⟨.tag "cell name=\x22".toList.reverse (some '\x22'), opened, events⟩ =
        ⟨.tag (name.toList.reverse ++ "cell name=\x22".toList.reverse) (some '\x22'), opened,
          events⟩ := Reader.reads_quoted unquoted _
  have closes (read : List Char) :
      ['\x22', '>'].foldl Reader.step ⟨.tag read (some '\x22'), opened, events⟩ =
        ⟨.text "", Tag.name ⟨('\x22' :: read).reverse⟩ :: opened,
          .start ⟨('\x22' :: read).reverse⟩ :: events⟩ := rfl
  rw [cellTag, List.append_assoc, List.singleton_append, List.foldl_append, List.foldl_append,
    opens, reads, closes, reverse_cellTag, name_cellTag]
  rfl

theorem reads_startCell {name : String} (unquoted : '\x22' ∉ name.toList) :
    Reads ⟨.text "\n", opened, events⟩ ("  <cell name=\x22" ++ name ++ "\x22>\n")
      ⟨.text "\n", ['c', 'e', 'l', 'l'] :: opened,
        .start (cellTag name.toList) :: .text "\n  " :: events⟩ := by
  have characters : ("  <cell name=\x22" ++ name ++ "\x22>\n").toList =
      [' ', ' ', '<'] ++ ((cellTag name.toList).content ++ ['>']) ++ ['\n'] := by
    simp [cellTag]
  have blanks : [' ', ' ', '<'].foldl Reader.step ⟨.text "\n", opened, events⟩ =
      ⟨.opening, opened, .text "\n  " :: events⟩ := rfl
  rw [Reads, characters, List.foldl_append, List.foldl_append, blanks,
    foldl_cellTag opened _ unquoted]
  rfl

theorem reads_stopBgColor (read : String) :
    Reads ⟨.text read, bgColorName :: opened, events⟩ "</bgcolor>\n"
      ⟨.text "\n", opened, .stop bgColorName :: flushed read events⟩ := by
  have characters : "</bgcolor>\n".toList =
      ['<', '/', 'b', 'g', 'c', 'o', 'l', 'o', 'r', '>', '\n'] := rfl
  exact Reader.reads_of_bracket characters rfl

theorem reads_stopText (read : String) :
    Reads ⟨.text read, textName :: opened, events⟩ "</text>\n"
      ⟨.text "\n", opened, .stop textName :: flushed read events⟩ := by
  have characters : "</text>\n".toList = ['<', '/', 't', 'e', 'x', 't', '>', '\n'] := rfl
  exact Reader.reads_of_bracket characters rfl

/-- The lines of a record are read up to its closing tag, and this up to its end. -/
theorem reads_openLines (record : CellRecord) :
    Reads ⟨.text "\n", opened, events⟩ record.openLines
      ⟨.closing ['l', 'l', 'e', 'c'] none, ['c', 'e', 'l', 'l'] :: opened,
        record.openEvents.reverse ++ events⟩ := by
  have unquoted : '\x22' ∉ record.cell.name.toList := CellRef.not_mem_name _ rfl
  have plain : '<' ∉ (Color.text record.bgColor).toList := fun member => by
    simpa using Color.isAlphanum_of_mem_text record.bgColor _ member
  have startBgColor (opened : List (List Char)) (events : List Event) :
      Reads ⟨.text "\n", opened, events⟩ "    <bgcolor>" ⟨.text "", bgColorName :: opened,
        .start ⟨bgColorName⟩ :: .text "\n    " :: events⟩ := rfl
  have startText (opened : List (List Char)) (events : List Event) :
      Reads ⟨.text "\n", opened, events⟩ "    <text>" ⟨.text "", textName :: opened,
        .start ⟨textName⟩ :: .text "\n    " :: events⟩ := rfl
  have stopCell (opened : List (List Char)) (events : List Event) :
      Reads ⟨.text "\n", opened, events⟩ "  </cell"
        ⟨.closing ['l', 'l', 'e', 'c'] none, opened, .text "\n  " :: events⟩ := rfl
  -- The lines one after the other, each from the state in which the one before has ended.
  have color := ((reads_startCell opened events unquoted).append (startBgColor _ _)).append
    (Reader.reads_text plain)
  have text := ((color.append (reads_stopBgColor _ _ _)).append (startText _ _)).append
    (Reader.reads_text (Markup.not_mem_escape record.text))
  have all := (text.append (reads_stopText _ _ _)).append (stopCell _ _)
  rw [String.empty_append, String.empty_append, flushed_append (Markup.escape record.text),
    flushed_append (Color.text record.bgColor)] at all
  unfold openLines
  simpa [openEvents, reverse_flushed] using all

/-- The bracket that ends the closing tag of a cell is its event. -/
theorem reads_closing :
    Reads ⟨.closing ['l', 'l', 'e', 'c'] none, ['c', 'e', 'l', 'l'] :: opened, events⟩ ">"
      ⟨.text "", opened, .stop ['c', 'e', 'l', 'l'] :: events⟩ := rfl

/-- **The lines of a record.** A reader after the end of a line meets the events of the record, and
stands after the end of a line again. -/
theorem reads_lines (record : CellRecord) :
    Reads ⟨.text "\n", opened, events⟩ record.lines
      ⟨.text "\n", opened, record.eventsOf.reverse ++ events⟩ := by
  have ends (events : List Event) : Reads ⟨.text "", opened, events⟩ "\n"
      ⟨.text "\n", opened, events⟩ := rfl
  have all := (reads_openLines opened events record).append
    ((reads_closing opened _).append (ends _))
  rw [lines_eq, eventsOf_eq, List.reverse_append, List.reverse_singleton, List.singleton_append,
    List.cons_append]
  exact all

end Events

/-! ### Collecting the events of a record -/

section Attributes

open Markup (Attribute AttributeScan)

theorem exists_foldl_value {quote : Char} {characters : List Char} (unquoted : quote ∉ characters)
    (position : Nat) (key read : String) (done : List Attribute) :
    ∃ position', characters.foldl AttributeScan.step ⟨position, .value key quote read, done, none⟩ =
      ⟨position', .value key quote (read ++ String.ofList characters), done, none⟩ := by
  induction characters generalizing position read with
  | nil => exact ⟨position, by simp⟩
  | cons c characters ih =>
    have different : ¬ c = quote := fun same => unquoted (same ▸ List.mem_cons_self)
    have one : AttributeScan.step ⟨position, .value key quote read, done, none⟩ c =
        ⟨position + c.utf8Size, .value key quote (read.push c), done, none⟩ := by
      simp only [AttributeScan.step, if_neg different]
    rw [List.foldl_cons, one, ← Markup.push_append_ofList]
    exact ih (fun member => unquoted (List.mem_cons_of_mem _ member)) _ _

theorem attributes_cellTag {name : String} (unquoted : '\x22' ∉ name.toList) :
    (cellTag name.toList).attributes = ([⟨"name", name⟩], none) := by
  have rest (characters : List Char) :
      (cellTag characters).content.dropWhile (fun c => !Markup.isBlank c) =
        [' ', 'n', 'a', 'm', 'e', '=', '\x22'] ++ (characters ++ ['\x22']) := rfl
  have key (position : Nat) : ∃ position',
      [' ', 'n', 'a', 'm', 'e', '=', '\x22'].foldl AttributeScan.step
        ⟨position, .between, [], none⟩ = ⟨position', .value "name" '\x22' "", [], none⟩ := ⟨_, rfl⟩
  unfold Tag.attributes
  simp only
  -- Positions are counted for the faults only.
  generalize List.foldl _ 0 (cellTag name.toList).name = start
  obtain ⟨between, keyed⟩ := key start
  obtain ⟨last, valued⟩ := exists_foldl_value unquoted between "name" "" []
  rw [rest, List.foldl_append, keyed, List.foldl_append, valued, String.ofList_toList,
    String.empty_append]
  rfl

end Attributes

section Collect

variable {record : CellRecord}

theorem startCell_cellTag (cell : CellRef) : startCell (cellTag cell.name.toList) =
    match CellRef.ofName? cell.name with
    | some read => .ok ⟨read, none, ""⟩
    | none => .error (.invalidCellName cell.name) := by
  have unquoted : '\x22' ∉ cell.name.toList := CellRef.not_mem_name _ rfl
  have plain : '&' ∉ cell.name.toList := CellRef.not_mem_name _ rfl
  rw [startCell, attributes_cellTag unquoted]
  cases read : CellRef.ofName? cell.name <;>
    simp [Markup.unescape_of_plain plain, CellRef.trim_name, read, bind, Except.bind, pure,
      Except.pure, throw, throwThe, MonadExceptOf.throw]

/-- What is read where a record was written: all of it, at the cell that its name is read as. -/
def reread (record : CellRecord) : Except SheetError CellRecord :=
  match CellRef.ofName? record.cell.name with
  | some cell => .ok { record with cell }
  | none => .error (.invalidCellName record.cell.name)

theorem exists_of_reread_eq_ok {read : CellRecord} (reads : record.reread = .ok read) :
    ∃ cell, CellRef.ofName? record.cell.name = some cell ∧ { record with cell } = read := by
  unfold reread at reads
  split at reads
  next cell named => exact ⟨cell, named, Except.ok.inj reads⟩
  next => exact absurd reads (by simp)

theorem reread_eq_ok_self_iff : reread record = .ok record ↔ record.cell.Named := by
  constructor
  · intro same
    obtain ⟨cell, reads, kept⟩ := exists_of_reread_eq_ok same
    obtain rfl : cell = record.cell := congrArg CellRecord.cell kept
    exact CellRef.named_of_ofName? reads
  · intro named
    rw [reread, CellRef.ofName?_name named]

/-- A text is added to the element that is collected, whether it is an event or empty. -/
theorem foldlM_flushed {text raw : String} (reads : Markup.unescape text = .ok raw)
    (done : List CellRecord) (pending : Pending) (field : Field)
    (idle : Collector.addText ⟨done, some pending, field⟩ pending "" =
      ⟨done, some pending, field⟩) :
    (flushed text []).foldlM Collector.step ⟨done, some pending, field⟩ =
      .ok (Collector.addText ⟨done, some pending, field⟩ pending raw) := by
  unfold flushed
  split
  next empty =>
    subst empty
    obtain rfl : "" = raw := Except.ok.inj reads
    rw [idle]
    rfl
  next => simp [Collector.step, reads, pure, Except.pure, bind, Except.bind]

variable {collector next : Collector} {outcome : Except SheetError Collector} {events : List Event}

theorem step_start_cell (cell : CellRef) (done : List CellRecord) :
    Collector.step ⟨done, none, .outside⟩ (.start (cellTag cell.name.toList)) =
      match CellRef.ofName? cell.name with
      | some read => .ok ⟨done, some ⟨read, none, ""⟩, .outside⟩
      | none => .error (.invalidCellName cell.name) := by
  have starts : Collector.step ⟨done, none, .outside⟩ (.start (cellTag cell.name.toList)) =
      (startCell (cellTag cell.name.toList) >>= fun pending =>
        .ok ⟨done, some pending, .outside⟩) := rfl
  rw [starts, startCell_cellTag]
  cases CellRef.ofName? cell.name <;> rfl

theorem step_stop_cell {pending : Pending} (finishes : finishCell pending = .ok record)
    (done : List CellRecord) :
    Collector.step ⟨done, some pending, .outside⟩ (.stop ['c', 'e', 'l', 'l']) =
      .ok ⟨record :: done, none, .outside⟩ := by
  have stops : Collector.step ⟨done, some pending, .outside⟩ (.stop ['c', 'e', 'l', 'l']) =
      (finishCell pending >>= fun record => .ok ⟨record :: done, none, .outside⟩) := rfl
  rw [stops, finishes]
  rfl

theorem step_blank (done : List CellRecord) :
    Collector.step ⟨done, none, .outside⟩ (.text "\n  ") = .ok ⟨done, none, .outside⟩ := rfl

/-- The events of a record up to the end of its cell are collected as the cell that is started, if
its name is read as one. -/
theorem foldlM_openEvents {cell : CellRef} (named : CellRef.ofName? record.cell.name = some cell)
    (done : List CellRecord) :
    record.openEvents.foldlM Collector.step ⟨done, none, .outside⟩ =
      .ok ⟨done, some ⟨cell, some (Color.text record.bgColor), record.text⟩, .outside⟩ := by
  have plain : '&' ∉ (Color.text record.bgColor).toList := fun member => by
    simpa using Color.isAlphanum_of_mem_text record.bgColor _ member
  have starts := step_start_cell record.cell done
  rw [named] at starts
  -- Blanks outside of the two inner elements are passed over.
  have blank (pending : Pending) : Collector.step ⟨done, some pending, .outside⟩ (.text "\n    ") =
      .ok ⟨done, some pending, .outside⟩ := rfl
  have after (pending : Pending) : Collector.step ⟨done, some pending, .outside⟩ (.text "\n  ") =
      .ok ⟨done, some pending, .outside⟩ := rfl
  have startBgColor (pending : Pending) :
      Collector.step ⟨done, some pending, .outside⟩ (.start ⟨bgColorName⟩) =
        .ok ⟨done, some { pending with bgColor? := some "" }, .bgColor⟩ := rfl
  have stopBgColor (pending : Pending) :
      Collector.step ⟨done, some pending, .bgColor⟩ (.stop bgColorName) =
        .ok ⟨done, some pending, .outside⟩ := rfl
  have startText (pending : Pending) :
      Collector.step ⟨done, some pending, .outside⟩ (.start ⟨textName⟩) =
        .ok ⟨done, some { pending with text := "" }, .text⟩ := rfl
  have stopText (pending : Pending) :
      Collector.step ⟨done, some pending, .text⟩ (.stop textName) =
        .ok ⟨done, some pending, .outside⟩ := rfl
  have color := foldlM_flushed (Markup.unescape_of_plain plain) done
    ⟨cell, some "", ""⟩ .bgColor rfl
  have text := foldlM_flushed (Markup.unescape_escape record.text) done
    ⟨cell, some (Color.text record.bgColor), ""⟩ .text rfl
  simp only [Collector.addText, String.empty_append, Option.getD_some] at color text
  -- The events in order, the last ones innermost: what is left to do after each of them.
  have ends := foldlM_cons_ok
    (stopText ⟨cell, some (Color.text record.bgColor), record.text⟩)
    (foldlM_singleton_ok (after _))
  have middle := foldlM_cons_ok (stopBgColor _) (foldlM_cons_ok (blank _)
    (foldlM_singleton_ok (startText ⟨cell, some (Color.text record.bgColor), ""⟩)))
  have begins := foldlM_cons_ok (step_blank done) (foldlM_cons_ok starts
    (foldlM_cons_ok (blank _) (foldlM_singleton_ok (startBgColor ⟨cell, none, ""⟩))))
  exact foldlM_append_ok (foldlM_append_ok (foldlM_append_ok (foldlM_append_ok begins color) middle)
    text) ends

/-- **The events of a record** are collected as the record, if its name is read as a cell. -/
theorem foldlM_eventsOf {read : CellRecord} (reads : record.reread = .ok read)
    (done : List CellRecord) :
    record.eventsOf.foldlM Collector.step ⟨done, none, .outside⟩ =
      .ok ⟨read :: done, none, .outside⟩ := by
  obtain ⟨cell, named, rfl⟩ := exists_of_reread_eq_ok reads
  have finishes : finishCell ⟨cell, some (Color.text record.bgColor), record.text⟩ =
      .ok { record with cell } := by
    unfold finishCell
    simp only [Color.ofText?_text]
    rfl
  rw [eventsOf_eq]
  exact foldlM_append_ok (foldlM_openEvents named done)
    (foldlM_singleton_ok (step_stop_cell finishes done))

/-- A cell whose name is not read is refused as it starts. -/
theorem foldlM_eventsOf_of_error {fault : SheetError} (refused : record.reread = .error fault)
    (done : List CellRecord) :
    record.eventsOf.foldlM Collector.step ⟨done, none, .outside⟩ = .error fault := by
  have starts := step_start_cell record.cell done
  unfold reread at refused
  cases named : CellRef.ofName? record.cell.name with
  | some cell => simp [named] at refused
  | none =>
    rw [named] at starts refused
    obtain rfl : SheetError.invalidCellName record.cell.name = fault := Except.error.inj refused
    simp only [eventsOf, List.cons_append, List.append_assoc]
    refine foldlM_cons_ok (step_blank done) ?_
    rw [List.foldlM_cons, starts]
    rfl

end Collect

/-! ### Whole documents -/

section Document

variable (records : List CellRecord)

/-- The name of the outermost element. -/
def rootName : List Char := ['s', 'p', 'r', 'e', 'a', 'd', 's', 'h', 'e', 'e', 't']

theorem reads_join (opened : List (List Char)) (events : List Event) :
    Reads ⟨.text "\n", opened, events⟩ (String.join (records.map lines))
      ⟨.text "\n", opened, (records.flatMap eventsOf).reverse ++ events⟩ := by
  induction records generalizing events with
  | nil => rfl
  | cons record records ih =>
    rw [List.map_cons, String.join_cons, List.flatMap_cons, List.reverse_append, List.append_assoc]
    exact (reads_lines opened events record).append (ih _)

/-- The lines before the first record start the outermost element. -/
theorem reads_opening :
    Reads .initial "<?xml version=\"1.0\" encoding=\"utf-8\"?>\n<spreadsheet>\n"
      ⟨.text "\n", [rootName], [.start ⟨rootName⟩, .text "\n"]⟩ := rfl

theorem reads_document :
    Reads .initial (document records) ⟨.text "\n", [], .stop rootName :: .text "\n" ::
      ((records.flatMap eventsOf).reverse ++ [.start ⟨rootName⟩, .text "\n"])⟩ := by
  have ends (events : List Event) : Reads ⟨.text "\n", [rootName], events⟩ "</spreadsheet>\n"
      ⟨.text "\n", [], .stop rootName :: .text "\n" :: events⟩ := rfl
  exact (reads_opening.append (reads_join records _ _)).append (ends _)

theorem toList_append_of_head? {first : String} {c : Char} (starts : first.toList.head? = some c)
    (second third : String) : ∃ rest, (first ++ second ++ third).toList = c :: rest := by
  obtain ⟨rest, characters⟩ := List.head?_eq_some_iff.mp starts
  exact ⟨rest ++ second.toList ++ third.toList, by simp [characters]⟩

/-- No mark of the byte order stands before a document. -/
theorem toList_document :
    ∃ rest, (document records).toList = '<' :: rest :=
  toList_append_of_head? rfl _ _

theorem events_document :
    Markup.events (document records) =
      ([.text "\n", .start ⟨rootName⟩] ++ records.flatMap eventsOf ++
        [.text "\n", .stop rootName, .text "\n"], none) := by
  obtain ⟨rest, characters⟩ := toList_document records
  have read := reads_document records
  rw [Reads, characters] at read
  rw [Markup.events, characters]
  change Reader.finish (('<' :: rest).foldl Reader.step .initial) = _
  rw [read]
  simp [Reader.finish, Reader.flush_eq, flushed]

theorem foldlM_flatMap_eventsOf (done : List CellRecord) :
    (records.flatMap eventsOf).foldlM Collector.step ⟨done, none, .outside⟩ =
      (records.mapM reread).map fun read => ⟨read.reverse ++ done, none, .outside⟩ := by
  induction records generalizing done with
  | nil => rfl
  | cons record records ih =>
    rw [List.flatMap_cons, List.mapM_cons]
    cases first : record.reread with
    | error fault =>
      rw [List.foldlM_append, foldlM_eventsOf_of_error first]
      rfl
    | ok read =>
      rw [foldlM_append_ok (foldlM_eventsOf first done) (ih _)]
      cases records.mapM reread with
      | error fault => rfl
      | ok others => simp [Except.map, bind, Except.bind, pure, Except.pure]

/-- Nothing is collected outside of the records. -/
theorem foldlM_opening :
    [Event.text "\n", .start ⟨rootName⟩].foldlM Collector.step .initial = .ok .initial := rfl

/-- **Reading what was written.** A document that was written from records is read record by record.
The first name that is not in A1 notation ends the reading. -/
theorem parse_document_eq : parse (document records) = records.mapM reread := by
  have middle : (records.flatMap eventsOf).foldlM Collector.step .initial =
      (records.mapM reread).map fun read => ⟨read.reverse ++ [], none, .outside⟩ :=
    foldlM_flatMap_eventsOf records []
  have ends (done : List CellRecord) :
      [Event.text "\n", .stop rootName, .text "\n"].foldlM Collector.step
        ⟨done, none, .outside⟩ = .ok ⟨done, none, .outside⟩ := rfl
  rw [parse, events_document]
  simp only
  rw [List.append_assoc, foldlM_append_ok foldlM_opening rfl, List.foldlM_append, middle]
  cases records.mapM reread with
  | error fault => rfl
  | ok read =>
    simp only [Except.map, bind, Except.bind, ends]
    simp [pure, Except.pure]

variable {records}

/-- **Round trip.** A document that was written from records whose cells have a name in A1 notation
is read as these records. -/
theorem parse_document (named : ∀ record ∈ records, record.cell.Named) :
    parse (document records) = .ok records := by
  rw [parse_document_eq, mapM_eq_ok_self_iff]
  exact fun record member => reread_eq_ok_self_iff.mpr (named record member)

/-- **Which records come back.** A document that was written from records is read as these records
just when each of their cells has a column with a letter and a row that, counted from one, fits in
a word. There may be any number of records, several of one cell among them, with any colors and any
texts. -/
theorem reads_back_iff (records : List CellRecord) :
    parse (document records) = .ok records ↔
      ∀ record ∈ records, record.cell.column < 26 ∧ record.cell.row < 2 ^ 64 - 1 := by
  rw [parse_document_eq, mapM_eq_ok_self_iff]
  exact forall₂_congr fun _ _ => reread_eq_ok_self_iff.trans CellRef.named_iff

end Document

end Worksheet.CellRecord
