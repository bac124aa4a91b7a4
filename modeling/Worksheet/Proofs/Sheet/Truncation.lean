import Mathlib.Data.List.Infix
import Worksheet.Proofs.Sheet.Saving

/-!
# Documents that are cut off

A document may be cut off at any character. What is left is refused, or it is read as the records
whose closing tags are left as a whole. No record is altered or shortened, and none is made up.

The place of the cut does not matter for this. A reader never takes an event back and a collector
never takes a record back, so what is left gives an earlier part of what the whole document gives.
A text that stands at the cut can be refused but is no record by itself.
-/

namespace Worksheet.CellRecord

open Markup (Event Reader)
open Markup.Reader (Reads flushed)

/-! ### Records are never taken back -/

namespace Collector

variable {collector next : Collector}

theorem records_addText (pending : Pending) (text : String) :
    (collector.addText pending text).records = collector.records := by
  unfold addText
  split <;> rfl

theorem records_of_start {tag : Markup.Tag} (done : collector.start tag = .ok next) :
    next.records = collector.records := by
  unfold start at done
  dsimp only at done
  split at done
  · obtain ⟨pending, -, done⟩ := exists_of_bind_ok done
    obtain rfl := Except.ok.inj done
    rfl
  · split at done
    · split at done
      · obtain rfl := Except.ok.inj done
        rfl
      · split at done
        all_goals
          obtain rfl := Except.ok.inj done
          rfl
    · obtain rfl := Except.ok.inj done
      rfl

theorem records_suffix_of_stop {name : List Char} (done : collector.stop name = .ok next) :
    collector.records <:+ next.records := by
  unfold stop at done
  dsimp only at done
  split at done
  · split at done
    next =>
      obtain ⟨record, -, done⟩ := exists_of_bind_ok done
      obtain rfl := Except.ok.inj done
      exact List.suffix_cons _ _
    next =>
      obtain rfl := Except.ok.inj done
      exact List.suffix_rfl
  · split at done
    all_goals
      obtain rfl := Except.ok.inj done
      exact List.suffix_rfl

/-- A text is no record by itself. -/
theorem records_of_step_text {text : String} (done : collector.step (.text text) = .ok next) :
    next.records = collector.records := by
  unfold step at done
  dsimp only at done
  split at done
  · split at done
    · obtain rfl := Except.ok.inj done
      exact records_addText _ _
    · cases done
  · obtain rfl := Except.ok.inj done
    rfl

/-- An event adds a record or none. -/
theorem records_suffix_of_step {event : Event} (done : collector.step event = .ok next) :
    collector.records <:+ next.records := by
  cases event with
  | start tag => exact records_of_start done ▸ List.suffix_rfl
  | empty tag =>
    unfold step at done
    dsimp only at done
    split at done
    · obtain ⟨pending, -, done⟩ := exists_of_bind_ok done
      obtain ⟨record, -, done⟩ := exists_of_bind_ok done
      obtain rfl := Except.ok.inj done
      exact List.suffix_cons _ _
    · obtain rfl := Except.ok.inj done
      exact List.suffix_rfl
  | stop name => exact records_suffix_of_stop done
  | text text => exact records_of_step_text done ▸ List.suffix_rfl
  | cdata text =>
    unfold step at done
    dsimp only at done
    split at done
    · obtain rfl := Except.ok.inj done
      exact records_addText _ _ ▸ List.suffix_rfl
    · obtain rfl := Except.ok.inj done
      exact List.suffix_rfl

theorem records_suffix_of_foldlM {events : List Event}
    (done : events.foldlM step collector = .ok next) : collector.records <:+ next.records := by
  induction events generalizing collector with
  | nil =>
    obtain rfl := Except.ok.inj done
    exact List.suffix_rfl
  | cons event events ih =>
    obtain ⟨between, one, others⟩ := exists_of_foldlM_cons_ok done
    exact (records_suffix_of_step one).trans (ih others)

end Collector

/-! ### What a beginning shows -/

/-- When some characters have been read, these records have been collected, the latest first. -/
def Shows (characters : List Char) (records : List CellRecord) : Prop :=
  ∃ collector, (characters.foldl Reader.step .initial).events.reverse.foldlM Collector.step
    .initial = .ok collector ∧ collector.records = records

section Cuts

variable {characters cut : List Char} {records earlier : List CellRecord}

/-- A beginning shows records that were collected before the others. -/
theorem Shows.beginning (shows : Shows characters records) (begins : cut <+: characters) :
    ∃ earlier, Shows cut earlier ∧ earlier <:+ records := by
  obtain ⟨collector, done, rfl⟩ := shows
  obtain ⟨rest, rfl⟩ := begins
  rw [List.foldl_append] at done
  -- The events of the beginning come first.
  obtain ⟨events, added⟩ := Reader.events_suffix_foldl (cut.foldl Reader.step .initial) rest
  rw [← added, List.reverse_append] at done
  obtain ⟨between, one, others⟩ := exists_of_foldlM_append_ok done
  exact ⟨between.records, ⟨between, one, rfl⟩, Collector.records_suffix_of_foldlM others⟩

theorem Shows.suffix (shows : Shows characters records) (begins : cut <+: characters)
    (before : Shows cut earlier) : earlier <:+ records := by
  obtain ⟨_, ⟨collector, done, rfl⟩, within⟩ := shows.beginning begins
  obtain ⟨same, again, rfl⟩ := before
  rw [done] at again
  obtain rfl := Except.ok.inj again
  exact within

/-- What is read where a document has been cut off are the records that it shows there, or it is
refused. -/
theorem Shows.parse (shows : Shows characters records)
    (plain : characters.head? ≠ some '\uFEFF') :
    (∃ fault, parse (String.ofList characters) = .error fault) ∨
      parse (String.ofList characters) = .ok records.reverse := by
  obtain ⟨collector, done, rfl⟩ := shows
  unfold CellRecord.parse
  rw [Markup.events_ofList plain]
  generalize characters.foldl Reader.step .initial = reader at done
  obtain ⟨mode, opened, events⟩ := reader
  cases mode with
  | text read =>
    simp only [Reader.finish, Reader.flush_eq, flushed]
    split
    next empty =>
      rw [done]
      exact .inr rfl
    next =>
      -- The text at the cut is one more event.
      rw [List.reverse_cons, List.foldlM_append, done]
      cases last : collector.step (.text read) with
      | error fault => exact .inl ⟨fault, by simp [last, bind, Except.bind]⟩
      | ok next =>
        rw [← Collector.records_of_step_text last]
        exact .inr (by simp [last, bind, Except.bind, pure, Except.pure])
  -- Inside of any other construct the end is a fault of the document.
  | opening | tag | closing | instruction | declaration | cdata | comment | doctype | failed =>
    simp only [Reader.finish]
    rw [done]
    exact .inl ⟨_, rfl⟩

end Cuts

/-! ### Up to a closing tag -/

/-- A document up to the closing tag of a record that comes after other ones, without the bracket
that ends this tag. -/
def beforeClosing (former : List CellRecord) (record : CellRecord) : String :=
  "<?xml version=\"1.0\" encoding=\"utf-8\"?>\n<spreadsheet>\n" ++
    String.join (former.map lines) ++ record.openLines

/-- A document up to the closing tag of a record, this tag included. -/
def throughClosing (former : List CellRecord) (record : CellRecord) : String :=
  beforeClosing former record ++ ">"

section Closing

variable {records former : List CellRecord} {record : CellRecord}

theorem Shows.of_reads {text : String} {mode : Markup.Mode} {opened : List (List Char)}
    {events ordered : List Event} {pending? : Option Pending} {field : Field}
    (reads : Reads .initial text ⟨mode, opened, events⟩)
    (collected : ordered.foldlM Collector.step .initial = .ok ⟨records, pending?, field⟩)
    (order : events.reverse = ordered) : Shows text.toList records := by
  refine ⟨⟨records, pending?, field⟩, ?_, rfl⟩
  rw [reads, order]
  exact collected

/-- Records whose names are read are collected as they were written. -/
theorem foldlM_flatMap_of_named (named : ∀ record ∈ records, record.cell.Named) :
    ([Event.text "\n", .start ⟨rootName⟩] ++ records.flatMap eventsOf).foldlM Collector.step
      .initial = .ok ⟨records.reverse, none, .outside⟩ := by
  have rereads : records.mapM reread = .ok records :=
    mapM_eq_ok_self_iff.mpr fun record member => reread_eq_ok_self_iff.mpr (named record member)
  have all := foldlM_flatMap_eventsOf records []
  rw [rereads, Except.map, List.append_nil] at all
  exact foldlM_append_ok foldlM_opening all

theorem shows_document (named : ∀ record ∈ records, record.cell.Named) :
    Shows (document records).toList records.reverse := by
  have ends : [Event.text "\n", .stop rootName].foldlM Collector.step
      ⟨records.reverse, none, .outside⟩ = .ok ⟨records.reverse, none, .outside⟩ := rfl
  have collected := foldlM_append_ok (foldlM_flatMap_of_named named) ends
  exact .of_reads (reads_document records) collected (by simp)

theorem reads_beforeClosing (former : List CellRecord) (record : CellRecord) :
    Reads .initial (beforeClosing former record) ⟨.closing ['l', 'l', 'e', 'c'] none,
      [['c', 'e', 'l', 'l'], rootName], record.openEvents.reverse ++
        ((former.flatMap eventsOf).reverse ++ [.start ⟨rootName⟩, .text "\n"])⟩ :=
  (reads_opening.append (reads_join former _ _)).append (reads_openLines _ _ record)

/-- Up to the last bracket of its closing tag a record has not been collected. -/
theorem shows_beforeClosing (earlier : ∀ other ∈ former, other.cell.Named)
    (own : record.cell.Named) : Shows (beforeClosing former record).toList former.reverse := by
  have collected := foldlM_append_ok (foldlM_flatMap_of_named earlier)
    (foldlM_openEvents (CellRef.ofName?_name own) former.reverse)
  exact .of_reads (reads_beforeClosing former record) collected (by simp)

/-- With its closing tag a record has been collected. -/
theorem shows_throughClosing (earlier : ∀ other ∈ former, other.cell.Named)
    (own : record.cell.Named) :
    Shows (throughClosing former record).toList (record :: former.reverse) := by
  have collected := foldlM_append_ok (foldlM_flatMap_of_named earlier)
    (foldlM_eventsOf (reread_eq_ok_self_iff.mpr own) former.reverse)
  exact .of_reads ((reads_beforeClosing former record).append (reads_closing _ _)) collected
    (by simp [eventsOf_eq])

/-- The closing tag of each record stands in the document. -/
theorem throughClosing_isPrefix (former : List CellRecord) (record : CellRecord)
    (latter : List CellRecord) : (throughClosing former record).toList <+:
      (document (former ++ record :: latter)).toList := by
  have split (opening bracket stop : String) :
      opening ++ String.join (former.map lines ++ (record.openLines ++ (bracket ++ "\n")) ::
          latter.map lines) ++ stop =
        opening ++ String.join (former.map lines) ++ record.openLines ++ bracket ++
          ("\n" ++ String.join (latter.map lines) ++ stop) := by
    rw [String.join_append, String.join_cons]
    simp only [String.append_assoc]
  unfold document throughClosing beforeClosing
  rw [List.map_append, List.map_cons, lines_eq, split]
  exact ⟨_, String.toList_append.symm⟩

/-- The bracket that ends a closing tag stands last in the text up to this tag. -/
theorem toList_throughClosing (former : List CellRecord) (record : CellRecord) :
    (throughClosing former record).toList = (beforeClosing former record).toList ++ ['>'] :=
  String.toList_append

/-- No mark of the byte order stands before what is left of a document. -/
theorem head?_of_isPrefix {cut : List Char} (begins : cut <+: (document records).toList) :
    cut.head? ≠ some '\uFEFF' := by
  obtain ⟨rest, starts⟩ := toList_document records
  cases cut with
  | nil => simp
  | cons c others =>
    obtain rfl : c = '<' := (List.cons_prefix_cons.mp (starts ▸ begins)).1
    simp

/-- **A document that is cut off.** Wherever it is cut, what is left is refused, or it is read as
the records whose closing tags are left as a whole, from the first one on and as they were
written. -/
theorem parse_cut (inside : ∀ record ∈ records, record.cell.column < 26 ∧
      record.cell.row < 2 ^ 64 - 1) {cut : List Char} (begins : cut <+: (document records).toList) :
    (∃ fault, parse (String.ofList cut) = .error fault) ∨
      ∃ count ≤ records.length, parse (String.ofList cut) = .ok (records.take count) ∧
        ∀ former record latter, records = former ++ record :: latter →
          (former.length < count ↔ (throughClosing former record).toList <+: cut) := by
  have named : ∀ record ∈ records, record.cell.Named :=
    fun record member => CellRef.named_iff.mpr (inside record member)
  -- The cut shows some of the first records; which ones is told by the closing tags before it.
  obtain ⟨earlier, shows, within⟩ := (shows_document named).beginning begins
  refine (shows.parse (head?_of_isPrefix begins)).imp_right fun read => ?_
  have before : earlier.reverse <+: records := by simpa using List.reverse_prefix.mpr within
  refine ⟨earlier.length, by simpa using within.length_le, ?_, ?_⟩
  · rw [read, ← List.length_reverse]
    exact congrArg _ (List.prefix_iff_eq_take.mp before)
  · rintro former record latter rfl
    have first : ∀ other ∈ former, other.cell.Named :=
      fun other member => named other (List.mem_append_left _ member)
    have own : record.cell.Named := named record (by simp)
    constructor
    · intro more
      -- A cut before the end of the closing tag is one before its last bracket.
      rcases List.prefix_or_prefix_of_prefix begins (throughClosing_isPrefix former record latter)
        with short | closed
      · rw [toList_throughClosing] at short ⊢
        rcases List.prefix_concat_iff.mp short with same | short
        · exact same ▸ List.prefix_rfl
        · have few := ((shows_beforeClosing first own).suffix short shows).length_le
          rw [List.length_reverse] at few
          omega
      · exact closed
    · intro closed
      have many := (shows.suffix closed (shows_throughClosing first own)).length_le
      rwa [List.length_cons, List.length_reverse] at many

/-- What ends after a closing tag is read, the record of this tag included. -/
theorem parse_throughClosing (named : ∀ other ∈ former ++ [record], other.cell.Named) :
    parse (throughClosing former record) = .ok (former ++ [record]) := by
  obtain ⟨earlier, own⟩ := List.forall_mem_append.mp named
  have collected := foldlM_append_ok (foldlM_flatMap_of_named earlier)
    (foldlM_eventsOf (reread_eq_ok_self_iff.mpr (own record List.mem_cons_self)) former.reverse)
  have reads := (reads_beforeClosing former record).append (reads_closing _ _)
  have order : (Event.stop ['c', 'e', 'l', 'l'] :: (record.openEvents.reverse ++
      ((former.flatMap eventsOf).reverse ++ [.start ⟨rootName⟩, .text "\n"]))).reverse =
        [.text "\n", .start ⟨rootName⟩] ++ former.flatMap eventsOf ++ record.eventsOf := by
    simp [eventsOf_eq]
  have read := Markup.events_ofList (head?_of_isPrefix (throughClosing_isPrefix former record []))
  rw [String.ofList_toList] at read
  have ended : Markup.events (throughClosing former record) = _ := read.trans (congrArg _ reads)
  rw [parse, ended]
  simp only [Reader.finish, Reader.flush_eq, flushed, if_true, order]
  rw [collected]
  simp [bind, Except.bind, pure, Except.pure]

/-- A record in the first cell. -/
def sampleFirst : CellRecord := ⟨⟨0, 0⟩, 0xFFFFFFFF, "1"⟩

/-- A record whose text has to be escaped. -/
def sampleSecond : CellRecord := ⟨⟨1, 1⟩, 0xFF00FF00, "A1&2"⟩

theorem parse_cut_sample :
    (throughClosing [] sampleFirst).toList <+: (document [sampleFirst, sampleSecond]).toList ∧
      parse (throughClosing [] sampleFirst) = .ok [sampleFirst] ∧
      ¬ (throughClosing [sampleFirst] sampleSecond).toList <+:
        (throughClosing [] sampleFirst).toList := by
  have begins := throughClosing_isPrefix [] sampleFirst [sampleSecond]
  have read : parse (throughClosing [] sampleFirst) = .ok ([] ++ [sampleFirst]) :=
    parse_throughClosing (by simp [sampleFirst, CellRef.named_iff])
  refine ⟨begins, read, fun whole => ?_⟩
  rcases parse_cut (by decide) begins with ⟨fault, refused⟩ | ⟨count, -, taken, closed⟩
  · rw [String.ofList_toList, read] at refused
    cases refused
  · rw [String.ofList_toList, read] at taken
    have one := congrArg List.length (Except.ok.inj taken)
    have two := (closed [sampleFirst] sampleSecond [] rfl).mpr whole
    simp only [List.length_append, List.length_take, List.length_cons, List.length_nil] at one two
    omega

end Closing

end Worksheet.CellRecord
