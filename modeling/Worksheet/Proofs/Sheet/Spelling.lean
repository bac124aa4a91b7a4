import Worksheet.Proofs.Markup.Spelling
import Worksheet.Proofs.Sheet.Saving

/-!
# Cells in any spelling

A cell is read with its text whatever the spelling of the text is. It may be cut into parts in any
way, comments and instructions may stand between the parts, and the elements of the cell may be set
apart by blanks. None of this is seen in the record.

While a document is read, its reader and the collector of the events go from one stage to the next
together. Inside a text element some characters of the text have been collected, and others are
still to be handed on by the reader; a part of the text adds to both of them what it spells.
-/

namespace Worksheet.CellRecord

open Markup (Event Mode Piece Reader SpelledChar)
open Markup.Reader (Reads flushed)

/-! ### Spelled cells -/

/-- Blanks between two elements. -/
abbrev Gap := { gap : List Char // ∀ c ∈ gap, Text.isBlank c = true }

/-- The tag that starts an element, with what stands in it. -/
def startTag (content : List Char) : List Char :=
  '<' :: (content ++ ['>'])

/-- The tag that ends an element. -/
def stopTag (name : List Char) : List Char :=
  '<' :: ('/' :: (name ++ ['>']))

/-- A color after some blanks, as an element. -/
def writtenColor (child : Gap × Color) : List Char :=
  child.1.val ++ startTag bgColorName ++ (Color.text child.2).toList ++ stopTag bgColorName

/-- A cell as it is spelled, with colors before and after its text, and with blanks before it and
around its elements. -/
structure SpelledCell where
  outer : Gap
  name : String
  cell : CellRef
  named : CellRef.ofName? name = some cell
  before : List (Gap × Color)
  inner : Gap
  pieces : List Piece
  after : List (Gap × Color)
  last : Gap

namespace SpelledCell

/-- The record of a cell: the last color counts. -/
def record (spelled : SpelledCell) : CellRecord where
  cell := spelled.cell
  bgColor := ((spelled.before ++ spelled.after).getLast?.map Prod.snd).getD Color.default
  text := String.ofList (spelled.pieces.flatMap Piece.raw)

/-- The spelling of a cell. -/
def written (spelled : SpelledCell) : List Char :=
  spelled.outer.val ++ startTag (cellTag spelled.name.toList).content ++
    spelled.before.flatMap writtenColor ++
    (spelled.inner.val ++ startTag textName ++ spelled.pieces.flatMap Piece.written ++
      stopTag textName) ++
    spelled.after.flatMap writtenColor ++ (spelled.last.val ++ stopTag ['c', 'e', 'l', 'l'])

/-- A document of spelled cells, and the blanks before its end. -/
def document (cells : List SpelledCell) (last : Gap) : List Char :=
  startTag rootName ++ cells.flatMap written ++ (last.val ++ stopTag rootName)

end SpelledCell

/-! ### Stages -/

/-- Where the reader of a document and the collector of its events are. -/
structure Stage where
  mode : Mode
  opened : List (List Char)
  collector : Collector

namespace Stage

/-- Some characters take both from one stage to another, whatever events came before. -/
def Takes (stage : Stage) (characters : List Char) (next : Stage) : Prop :=
  ∀ events : List Event, ∃ added : List Event,
    characters.foldl Reader.step ⟨stage.mode, stage.opened, events⟩ =
      ⟨next.mode, next.opened, added.reverse ++ events⟩ ∧
    added.foldlM Collector.step stage.collector = .ok next.collector

variable {stage between next : Stage} {first second : List Char}

theorem Takes.append (one : stage.Takes first between) (two : between.Takes second next) :
    stage.Takes (first ++ second) next := by
  intro events
  obtain ⟨added, reads, collects⟩ := one events
  obtain ⟨further, readsOn, collectsOn⟩ := two (added.reverse ++ events)
  refine ⟨added ++ further, ?_, foldlM_append_ok collects collectsOn⟩
  rw [List.foldl_append, reads, readsOn, List.reverse_append, List.append_assoc]

theorem Takes.refl (stage : Stage) : stage.Takes [] stage := fun _ => ⟨[], rfl, rfl⟩

variable {mode last : Mode} {opened inside : List (List Char)} {collector after : Collector}
  {characters : List Char}

/-- Characters that are no event leave the collector where it is. -/
theorem takes_silent (reads : ∀ events, characters.foldl Reader.step ⟨mode, opened, events⟩ =
    ⟨last, inside, events⟩) :
    Takes ⟨mode, opened, collector⟩ characters ⟨last, inside, collector⟩ :=
  fun events => ⟨[], reads events, rfl⟩

/-- Characters that are an event. -/
theorem takes_event {event : Event}
    (reads : ∀ events, characters.foldl Reader.step ⟨mode, opened, events⟩ =
      ⟨last, inside, event :: events⟩) (collects : collector.step event = .ok after) :
    Takes ⟨mode, opened, collector⟩ characters ⟨last, inside, after⟩ :=
  fun events => ⟨[event], reads events, foldlM_singleton_ok collects⟩

/-- A text is handed on at the next bracket. -/
theorem takes_bracket {read : String}
    (collects : (flushed read []).foldlM Collector.step collector = .ok after) :
    Takes ⟨.text read, opened, collector⟩ ['<'] ⟨.opening, opened, after⟩ := by
  intro events
  refine ⟨flushed read [], ?_, collects⟩
  rw [reverse_flushed, ← flushed_append]
  exact Reader.step_bracket

/-- Characters other than brackets are read as a text. -/
theorem takes_text {read : String} (plain : '<' ∉ characters) :
    Takes ⟨.text read, opened, collector⟩ characters
      ⟨.text (read ++ String.ofList characters), opened, collector⟩ := by
  apply takes_silent
  intro events
  have unmarked : '<' ∉ (String.ofList characters).toList := by simpa using plain
  have reads : Reads ⟨.text read, opened, events⟩ (String.ofList characters)
      ⟨.text (read ++ String.ofList characters), opened, events⟩ := Reader.reads_text unmarked
  rwa [Reads, String.toList_ofList] at reads

/-- Where no text is collected, blanks before a bracket are passed over. -/
theorem takes_gap (gap : Gap) (idle : collector.pending? = none ∨ collector.field = .outside) :
    Takes ⟨.text "", opened, collector⟩ (gap.val ++ ['<']) ⟨.opening, opened, collector⟩ := by
  have outside {c : Char} (printed : Text.isBlank c = false) : c ∉ gap.val := by
    intro member
    simp [gap.property c member] at printed
  have plain : '&' ∉ (String.ofList gap.val).toList := by simpa using outside rfl
  refine (takes_text (outside rfl)).append (takes_bracket ?_)
  rw [String.empty_append]
  obtain ⟨done, pending?, field⟩ := collector
  cases pending? with
  -- Between cells a text is dropped, and in a cell one that is in no field.
  | none =>
    unfold flushed
    split <;> rfl
  | some pending =>
    obtain rfl : field = .outside := idle.resolve_left (by simp)
    exact foldlM_flushed (Markup.unescape_of_plain plain) done pending .outside rfl

end Stage

/-! ### The text of a cell -/

section Text

variable {opened : List (List Char)} {done : List CellRecord} {cell : CellRef}
  {color? : Option String} {sofar : List Char} {stage : Stage}

/-- Inside a text element some characters of the text have been collected, and others are still to
be handed on. -/
def Within (opened : List (List Char)) (done : List CellRecord) (cell : CellRef)
    (color? : Option String) (sofar : List Char) (stage : Stage) : Prop :=
  ∃ (spelled : List SpelledChar) (collected : String),
    stage = ⟨.text (String.ofList (spelled.flatMap SpelledChar.written)), textName :: opened,
      ⟨done, some ⟨cell, color?, collected⟩, .text⟩⟩ ∧
    collected ++ String.ofList (spelled.map SpelledChar.char) = String.ofList sofar

/-- A bracket hands all characters of the text on. -/
theorem Within.bracket (within : Within opened done cell color? sofar stage) :
    stage.Takes ['<'] ⟨.opening, textName :: opened,
      ⟨done, some ⟨cell, color?, String.ofList sofar⟩, .text⟩⟩ := by
  obtain ⟨spelled, collected, rfl, whole⟩ := within
  apply Stage.takes_bracket
  have reads := Markup.unescape_flatMap fun (input : SpelledChar) (_ : input ∈ spelled) =>
    input.spells
  rw [← whole]
  exact foldlM_flushed reads done ⟨cell, color?, collected⟩ .text (by simp [Collector.addText])

/-- After a construct nothing is still to be handed on. -/
theorem within_of_handed (opened : List (List Char)) (done : List CellRecord) (cell : CellRef)
    (color? : Option String) (sofar : List Char) :
    Within opened done cell color? sofar ⟨.text "", textName :: opened,
      ⟨done, some ⟨cell, color?, String.ofList sofar⟩, .text⟩⟩ :=
  ⟨[], _, rfl, String.append_empty⟩

/-- **A part of a text** adds what it spells to the text. -/
theorem Within.piece (within : Within opened done cell color? sofar stage) (piece : Piece) :
    ∃ next, stage.Takes piece.written next ∧
      Within opened done cell color? (sofar ++ piece.raw) next := by
  have handed := within.bracket
  cases piece with
  -- Characters wait with those before them; every other part begins with the bracket that hands
  -- them on.
  | characters further =>
    obtain ⟨spelled, collected, rfl, whole⟩ := within
    have plain := SpelledChar.not_mem_flatMap_written further
    refine ⟨_, Stage.takes_text plain, spelled ++ further, collected, ?_, ?_⟩
    · rw [List.flatMap_append, String.ofList_append]
      rfl
    · rw [List.map_append, String.ofList_append, ← String.append_assoc, whole,
        ← String.ofList_append]
      rfl
  | cdata content inside =>
    have collects : Collector.step ⟨done, some ⟨cell, color?, String.ofList sofar⟩, .text⟩
        (.cdata (String.ofList content)) =
          .ok ⟨done, some ⟨cell, color?, String.ofList (sofar ++ content)⟩, .text⟩ := by
      rw [String.ofList_append]
      rfl
    exact ⟨_, handed.append (Stage.takes_event (fun _ => Reader.foldl_cdata inside) collects),
      within_of_handed opened done cell color? _⟩
  | comment content inside =>
    refine ⟨_, handed.append (Stage.takes_silent fun _ => Reader.foldl_comment inside), ?_⟩
    rw [Piece.raw, List.append_nil]
    exact within_of_handed opened done cell color? sofar
  | instruction content inside =>
    refine ⟨_, handed.append (Stage.takes_silent fun _ => Reader.foldl_instruction inside), ?_⟩
    rw [Piece.raw, List.append_nil]
    exact within_of_handed opened done cell color? sofar

/-- All parts of a text. -/
theorem Within.pieces (within : Within opened done cell color? sofar stage) (pieces : List Piece) :
    ∃ next, stage.Takes (pieces.flatMap Piece.written) next ∧
      Within opened done cell color? (sofar ++ pieces.flatMap Piece.raw) next := by
  induction pieces generalizing sofar stage with
  | nil => exact ⟨stage, .refl stage, by simpa using within⟩
  | cons piece pieces ih =>
    obtain ⟨between, one, here⟩ := within.piece piece
    obtain ⟨next, others, all⟩ := ih here
    refine ⟨next, one.append others, ?_⟩
    rwa [List.flatMap_cons, ← List.append_assoc]

end Text

/-! ### The elements of a cell -/

section Elements

variable (opened : List (List Char)) (done : List CellRecord)

/-- A cell whose name is read starts without a color and without a text. -/
theorem startCell_of_ofName? {name : String} {cell : CellRef}
    (named : CellRef.ofName? name = some cell) :
    startCell (cellTag name.toList) = .ok ⟨cell, none, ""⟩ := by
  have unquoted : '\x22' ∉ name.toList := CellRef.not_mem_of_ofName? named rfl
  have plain : '&' ∉ name.toList := CellRef.not_mem_of_ofName? named rfl
  have solid : Text.trim name = name := Text.trim_of_not_isBlank fun c member =>
    Text.isBlank_of_isAlphanum (CellRef.isAlphanum_of_ofName? named c member)
  rw [startCell, attributes_cellTag unquoted]
  simp [Markup.unescape_of_plain plain, solid, named, bind, Except.bind, pure, Except.pure]

/-- The tag that starts a cell. -/
theorem takes_startCell {name : String} {cell : CellRef}
    (named : CellRef.ofName? name = some cell) :
    Stage.Takes ⟨.opening, opened, ⟨done, none, .outside⟩⟩ ((cellTag name.toList).content ++ ['>'])
      ⟨.text "", ['c', 'e', 'l', 'l'] :: opened, ⟨done, some ⟨cell, none, ""⟩, .outside⟩⟩ := by
  have unquoted : '\x22' ∉ name.toList := CellRef.not_mem_of_ofName? named rfl
  have starts : Collector.step ⟨done, none, .outside⟩ (.start (cellTag name.toList)) =
      (startCell (cellTag name.toList) >>= fun pending =>
        .ok ⟨done, some pending, .outside⟩) := rfl
  rw [startCell_of_ofName? named] at starts
  exact Stage.takes_event (fun events => foldl_cellTag opened events unquoted) starts

/-- An element with a color. -/
theorem takes_color (child : Gap × Color) (pending : Pending) :
    Stage.Takes ⟨.text "", opened, ⟨done, some pending, .outside⟩⟩ (writtenColor child)
      ⟨.text "", opened, ⟨done, some { pending with bgColor? := some (Color.text child.2) },
        .outside⟩⟩ := by
  obtain ⟨gap, color⟩ := child
  have outside {c : Char} (strange : c.isAlphanum = false) : c ∉ (Color.text color).toList := by
    intro member
    simp [Color.isAlphanum_of_mem_text color c member] at strange
  have starts : Stage.Takes ⟨.opening, opened, ⟨done, some pending, .outside⟩⟩
      (bgColorName ++ ['>']) ⟨.text "", bgColorName :: opened,
        ⟨done, some { pending with bgColor? := some "" }, .bgColor⟩⟩ :=
    Stage.takes_event (fun _ => rfl) rfl
  have plain : '&' ∉ (Color.text color).toList := outside rfl
  have collects := foldlM_flushed (Markup.unescape_of_plain plain) done
    { pending with bgColor? := some "" } .bgColor rfl
  simp only [Collector.addText, String.empty_append, Option.getD_some] at collects
  have text : Stage.Takes ⟨.text "", bgColorName :: opened,
      ⟨done, some { pending with bgColor? := some "" }, .bgColor⟩⟩ (Color.text color).toList
      ⟨.text ("" ++ String.ofList (Color.text color).toList), bgColorName :: opened,
        ⟨done, some { pending with bgColor? := some "" }, .bgColor⟩⟩ :=
    Stage.takes_text (outside rfl)
  rw [String.empty_append, String.ofList_toList] at text
  have stops : Stage.Takes ⟨.opening, bgColorName :: opened,
      ⟨done, some { pending with bgColor? := some (Color.text color) }, .bgColor⟩⟩
      ('/' :: (bgColorName ++ ['>']))
      ⟨.text "", opened, ⟨done, some { pending with bgColor? := some (Color.text color) },
        .outside⟩⟩ :=
    Stage.takes_event (fun _ => rfl) rfl
  have all := ((((Stage.takes_gap gap (.inr rfl)).append starts).append text).append
    (Stage.takes_bracket collects)).append stops
  simpa [writtenColor, startTag, stopTag] using all

/-- The last color that has been written, or the one that was there before. -/
def lastColor (colors : List (Gap × Color)) (color? : Option Color) : Option Color :=
  (colors.getLast?.map Prod.snd).or color?

theorem lastColor_cons (child : Gap × Color) (colors : List (Gap × Color))
    (color? : Option Color) :
    lastColor (child :: colors) color? = lastColor colors (some child.2) := by
  cases colors with
  | nil => rfl
  | cons other colors => simp [lastColor, List.getLast?_cons]

theorem lastColor_append (colors further : List (Gap × Color)) (color? : Option Color) :
    lastColor (colors ++ further) color? = lastColor further (lastColor colors color?) := by
  rw [lastColor, List.getLast?_append, Option.map_or, Option.or_assoc]
  rfl

/-- Elements with colors: the last one counts. -/
theorem takes_colors (colors : List (Gap × Color)) (cell : CellRef) (color? : Option Color)
    (text : String) :
    Stage.Takes ⟨.text "", opened, ⟨done, some ⟨cell, color?.map Color.text, text⟩, .outside⟩⟩
      (colors.flatMap writtenColor)
      ⟨.text "", opened,
        ⟨done, some ⟨cell, (lastColor colors color?).map Color.text, text⟩, .outside⟩⟩ := by
  induction colors generalizing color? with
  | nil => exact .refl _
  | cons child colors ih =>
    rw [List.flatMap_cons, lastColor_cons]
    exact (takes_color opened done child _).append (ih (some child.2))

/-- The text element of a cell. -/
theorem takes_pieces (gap : Gap) (pieces : List Piece) (pending : Pending) :
    Stage.Takes ⟨.text "", opened, ⟨done, some pending, .outside⟩⟩
      (gap.val ++ startTag textName ++ pieces.flatMap Piece.written ++ stopTag textName)
      ⟨.text "", opened,
        ⟨done, some { pending with text := String.ofList (pieces.flatMap Piece.raw) },
          .outside⟩⟩ := by
  obtain ⟨cell, color?, old⟩ := pending
  have starts : Stage.Takes ⟨.opening, opened, ⟨done, some ⟨cell, color?, old⟩, .outside⟩⟩
      (textName ++ ['>']) ⟨.text "", textName :: opened, ⟨done, some ⟨cell, color?, ""⟩, .text⟩⟩ :=
    Stage.takes_event (fun _ => rfl) rfl
  obtain ⟨last, parts, within⟩ := (within_of_handed opened done cell color? []).pieces pieces
  have stops : Stage.Takes ⟨.opening, textName :: opened,
      ⟨done, some ⟨cell, color?, String.ofList ([] ++ pieces.flatMap Piece.raw)⟩, .text⟩⟩
      ('/' :: (textName ++ ['>'])) ⟨.text "", opened,
        ⟨done, some ⟨cell, color?, String.ofList ([] ++ pieces.flatMap Piece.raw)⟩, .outside⟩⟩ :=
    Stage.takes_event (fun _ => rfl) rfl
  have all := ((((Stage.takes_gap gap (.inr rfl)).append starts).append parts).append
    within.bracket).append stops
  simpa [startTag, stopTag] using all

/-- The record of a cell whose color is the text of a color. -/
theorem finishCell_map_text (cell : CellRef) (color? : Option Color) (text : String) :
    finishCell ⟨cell, color?.map Color.text, text⟩ =
      .ok ⟨cell, color?.getD Color.default, text⟩ := by
  cases color? with
  | none => rfl
  | some color =>
    simp only [finishCell, Option.map_some, Color.ofText?_text]
    rfl

/-- **A spelled cell** adds its record. -/
theorem SpelledCell.takes (spelled : SpelledCell) :
    Stage.Takes ⟨.text "", opened, ⟨done, none, .outside⟩⟩ spelled.written
      ⟨.text "", opened, ⟨spelled.record :: done, none, .outside⟩⟩ := by
  have starts := (Stage.takes_gap spelled.outer (.inl rfl)).append
    (takes_startCell opened done spelled.named)
  have before := takes_colors (['c', 'e', 'l', 'l'] :: opened) done spelled.before spelled.cell
    none ""
  have text := takes_pieces (['c', 'e', 'l', 'l'] :: opened) done spelled.inner spelled.pieces
    ⟨spelled.cell, (lastColor spelled.before none).map Color.text, ""⟩
  have after := takes_colors (['c', 'e', 'l', 'l'] :: opened) done spelled.after spelled.cell
    (lastColor spelled.before none) spelled.record.text
  have stops : Stage.Takes ⟨.opening, ['c', 'e', 'l', 'l'] :: opened,
      ⟨done, some ⟨spelled.cell,
        (lastColor spelled.after (lastColor spelled.before none)).map Color.text,
        spelled.record.text⟩, .outside⟩⟩ ('/' :: (['c', 'e', 'l', 'l'] ++ ['>']))
      ⟨.text "", opened, ⟨spelled.record :: done, none, .outside⟩⟩ := by
    refine Stage.takes_event (fun _ => rfl) (step_stop_cell ?_ done)
    -- The colors before and after the text are one list, of which the last counts.
    rw [finishCell_map_text, ← lastColor_append, lastColor, Option.or_none]
    rfl
  have all := ((((starts.append before).append text).append after).append
    (Stage.takes_gap spelled.last (.inr rfl))).append stops
  simpa [SpelledCell.written, startTag, stopTag] using all

/-- Spelled cells, one after the other. -/
theorem takes_cells (cells : List SpelledCell) :
    Stage.Takes ⟨.text "", opened, ⟨done, none, .outside⟩⟩ (cells.flatMap SpelledCell.written)
      ⟨.text "", opened, ⟨(cells.map SpelledCell.record).reverse ++ done, none, .outside⟩⟩ := by
  induction cells generalizing done with
  | nil => exact .refl _
  | cons spelled cells ih =>
    rw [List.flatMap_cons, List.map_cons, List.reverse_cons, List.append_assoc]
    exact (spelled.takes opened done).append (ih _)

end Elements

/-! ### Documents -/

theorem SpelledCell.takes_document (cells : List SpelledCell) (last : Gap) :
    Stage.Takes ⟨.text "", [], .initial⟩ (document cells last)
      ⟨.text "", [], ⟨(cells.map record).reverse, none, .outside⟩⟩ := by
  have starts : Stage.Takes ⟨.text "", [], .initial⟩ (startTag rootName)
      ⟨.text "", [rootName], .initial⟩ := Stage.takes_event (fun _ => rfl) rfl
  have stops : Stage.Takes ⟨.opening, [rootName], ⟨(cells.map record).reverse, none, .outside⟩⟩
      ('/' :: (rootName ++ ['>']))
      ⟨.text "", [], ⟨(cells.map record).reverse, none, .outside⟩⟩ :=
    Stage.takes_event (fun _ => rfl) rfl
  have inside := takes_cells [rootName] [] cells
  rw [List.append_nil] at inside
  have all := ((starts.append inside).append (Stage.takes_gap last (.inl rfl))).append stops
  simpa [document, stopTag] using all

/-- What has been collected at the end of a document are its records. -/
theorem parse_of_takes {characters : List Char} {opened : List (List Char)}
    {collector : Collector} (plain : characters.head? ≠ some '\uFEFF')
    (takes : Stage.Takes ⟨.text "", [], .initial⟩ characters ⟨.text "", opened, collector⟩) :
    parse (String.ofList characters) = .ok collector.records.reverse := by
  obtain ⟨added, reads, collects⟩ := takes []
  have read : characters.foldl Reader.step .initial = ⟨.text "", opened, added.reverse ++ []⟩ :=
    reads
  rw [parse, Markup.events_ofList plain, read]
  simp only [Reader.finish, Reader.flush_eq, flushed, if_true, List.append_nil,
    List.reverse_reverse, collects]
  rfl

/-- **Spellings of a text.** Every spelling of cells is read as their records: the text of each is
what its parts spell, one after the other, and nothing else in the cell is part of it. -/
theorem parse_spelled (cells : List SpelledCell) (last : Gap) :
    parse (String.ofList (SpelledCell.document cells last)) =
      .ok (cells.map SpelledCell.record) := by
  have read := parse_of_takes (by simp [SpelledCell.document, startTag])
    (SpelledCell.takes_document cells last)
  rwa [List.reverse_reverse] at read

/-- A cell whose text begins with a blank and is spelled in all ways. -/
def sampleSpelled : SpelledCell where
  outer := ⟨[], by simp⟩
  name := "C3"
  cell := ⟨2, 2⟩
  named := by decide
  before := [(⟨['\n', ' '], by simp [Text.isBlank]⟩, 0xFF00FF00)]
  inner := ⟨['\t'], by simp [Text.isBlank]⟩
  pieces :=
    [.characters [.plain ' ' (by decide), .named .amp,
      .hexadecimal '<' ['3', 'c'] ⟨by decide, by decide, by decide⟩],
    .comment [' ', '-', ' ', '>'] (by decide),
    .characters [.decimal 'A' ['0', '6', '5'] ⟨by decide, by decide, by decide⟩],
    .instruction ['x', '?'] (by decide),
    .cdata ['<', '&', ']'] (by decide)]
  after := []
  last := ⟨['\n'], by simp [Text.isBlank]⟩

theorem parse_spelled_sample :
    SpelledCell.document [sampleSpelled] ⟨[], by simp⟩ =
        "<spreadsheet><cell name=\x22C3\x22>\n <bgcolor>FF00FF00</bgcolor>".toList ++
        "\t<text> &amp;&#x3c;<!-- - >-->&#065;<?x??><![CDATA[<&]]]></text>\n".toList ++
        "</cell></spreadsheet>".toList ∧
      parse (String.ofList (SpelledCell.document [sampleSpelled] ⟨[], by simp⟩)) =
        .ok [⟨⟨2, 2⟩, 0xFF00FF00, " &<A<&]"⟩] := by
  refine ⟨by decide +kernel, ?_⟩
  rw [parse_spelled]
  decide +kernel

end Worksheet.CellRecord
