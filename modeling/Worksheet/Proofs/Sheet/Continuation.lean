import Mathlib.Data.Option.Basic
import Worksheet.Proofs.Markup.EmptyElements
import Worksheet.Proofs.Sheet.Saving

/-!
# How a document goes on

A document is read up to some place, over a construct, and to its end. What has been collected up to
a place says which records the rest of the document adds, so two constructs may stand for each other
if they lead to one collector.

Less is enough: two collectors may differ in a color that is refused on both sides as long as it is
not replaced. Texts are collected in cells only, and a cell that has been started is open.
-/

namespace Worksheet.CellRecord

open Markup (Event Reader Tag readerAfter)

/-! ### What follows -/

/-- The records of a document of which some events have been collected and others are to come. -/
def conclude (collector : Collector) (rest : List Event) (fault? : Option MarkupError) :
    Except SheetError (List CellRecord) := do
  let collector ← rest.foldlM Collector.step collector
  match fault? with
  | some fault => throw (.markup fault)
  | none => pure collector.records.reverse

theorem conclude_append (collector : Collector) (first rest : List Event)
    (fault? : Option MarkupError) : conclude collector (first ++ rest) fault? =
      (do conclude (← first.foldlM Collector.step collector) rest fault?) := by
  unfold conclude
  rw [List.foldlM_append, bind_assoc]

/-- What has been collected where a document goes on with a bracket. -/
def collectedAt (before : List Char) : Except SheetError Collector :=
  (readerAfter (before ++ ['<'])).events.reverse.foldlM Collector.step .initial

section Split

variable {before piece after : List Char} {opened : List (List Char)}
  {events rest : List Event} {fault? : Option MarkupError}

/-- A document with some construct in it is read up to the construct, over it, and to the end. -/
theorem parse_split (added : List Event)
    (reads : readerAfter (before ++ ['<']) = ⟨.opening, opened, events⟩)
    (takes : piece.foldl Reader.step ⟨.opening, opened, events⟩ =
      ⟨.text "", opened, added.reverse ++ events⟩)
    (ends : ∀ events, (after.foldl Reader.step ⟨.text "", opened, events⟩).finish =
      (events.reverse ++ rest, fault?)) :
    parse (String.ofList (before ++ '<' :: (piece ++ after))) =
      collectedAt before >>= fun collector =>
        added.foldlM Collector.step collector >>= fun collector =>
          conclude collector rest fault? := by
  have split : before ++ '<' :: (piece ++ after) = before ++ ['<'] ++ (piece ++ after) := by simp
  have read : Markup.events (String.ofList (before ++ '<' :: (piece ++ after))) =
      (events.reverse ++ (added ++ rest), fault?) := by
    rw [Markup.events_eq_readerAfter, split, Markup.readerAfter_append (by simp), reads,
      List.foldl_append, takes, ends]
    simp
  have whole : parse (String.ofList (before ++ '<' :: (piece ++ after))) =
      conclude .initial (events.reverse ++ (added ++ rest)) fault? := by
    rw [parse, read]
    rfl
  rw [whole, conclude_append, collectedAt, reads]
  exact congrArg _ (funext fun collector => conclude_append collector added rest fault?)

end Split

/-! ### Collectors that go on alike -/

namespace Collector

/-- Collectors from which all events lead to the same records, or to a fault on both sides: they are
the same, or they differ in a color of a cell that is refused with both of its colors. -/
inductive Alike : Collector → Collector → Prop where
  | same (collector : Collector) : Alike collector collector
  | unreadable (records : List CellRecord) (cell : CellRef) (text : String) {field : Field}
      {color other : String} (apart : field ≠ .bgColor) (one : Color.ofText? color = none)
      (two : Color.ofText? other = none) :
      Alike ⟨records, some ⟨cell, some color, text⟩, field⟩
        ⟨records, some ⟨cell, some other, text⟩, field⟩

variable {collector other : Collector}

theorem Alike.records (alike : Alike collector other) : collector.records = other.records := by
  cases alike <;> rfl

/-- Results that are alike: both are faults, or neither is. -/
def AlikeResults (one other : Except SheetError Collector) : Prop :=
  Option.Rel Alike one.toOption other.toOption

theorem alikeResults_refl (result : Except SheetError Collector) : AlikeResults result result := by
  cases result with
  | error cause => exact .none
  | ok collector => exact .some (.same collector)

theorem alikeResults_ok (alike : Alike collector other) :
    AlikeResults (.ok collector) (.ok other) :=
  .some alike

theorem finishCell_of_unreadable (cell : CellRef) (text : String) {color : String}
    (unread : Color.ofText? color = none) :
    finishCell ⟨cell, some color, text⟩ = .error (.invalidColor color) := by
  simp [finishCell, unread, bind, Except.bind, throw, throwThe, MonadExceptOf.throw]

/-- **Steps.** An event leads from collectors that are alike to such again, or to two faults. -/
theorem Alike.step (alike : Alike collector other) (event : Event) :
    AlikeResults (collector.step event) (other.step event) := by
  cases alike with
  | same => exact alikeResults_refl _
  | @unreadable records cell text field color second apart one two =>
    cases event with
    | start tag =>
      -- A cell that is started now, and a color that is, are the same from then on.
      simp only [Collector.step, start]
      split
      next => exact alikeResults_refl _
      next =>
        split
        next => exact alikeResults_refl _
        next =>
          split
          next => exact alikeResults_ok (.unreadable records cell "" (by simp) one two)
          next => exact alikeResults_ok (.unreadable records cell text apart one two)
    | empty tag =>
      simp only [Collector.step]
      split
      next =>
        cases started : startCell tag with
        | error cause => exact .none
        | ok pending =>
          cases finished : finishCell pending with
          | error cause => simp [bind, Except.bind, finished, AlikeResults, Except.toOption]
          | ok record =>
            simp only [bind, Except.bind, finished]
            exact alikeResults_ok (.unreadable (record :: records) cell text apart one two)
      next => exact alikeResults_ok (.unreadable records cell text apart one two)
    | stop name =>
      simp only [Collector.step, stop]
      split
      next =>
        rw [finishCell_of_unreadable cell text one, finishCell_of_unreadable cell text two]
        exact .none
      next =>
        split
        next => exact alikeResults_ok (.unreadable records cell text (by simp) one two)
        next => exact alikeResults_ok (.unreadable records cell text apart one two)
    | text escaped =>
      simp only [Collector.step]
      split
      next added _ =>
        cases field with
        | bgColor => exact absurd rfl apart
        | outside => exact alikeResults_ok (.unreadable records cell text apart one two)
        | text => exact alikeResults_ok (.unreadable records cell (text ++ added) apart one two)
      next => exact .none
    | cdata added =>
      cases field with
      | bgColor => exact absurd rfl apart
      | outside => exact alikeResults_ok (.unreadable records cell text apart one two)
      | text => exact alikeResults_ok (.unreadable records cell (text ++ added) apart one two)

/-- **Runs.** So do all events, one after the other. -/
theorem Alike.foldlM (alike : Alike collector other) (events : List Event) :
    AlikeResults (events.foldlM Collector.step collector)
      (events.foldlM Collector.step other) := by
  induction events generalizing collector other with
  | nil => exact alikeResults_ok alike
  | cons event events ih =>
    have one := alike.step event
    rw [List.foldlM_cons, List.foldlM_cons]
    cases first : collector.step event with
    | error cause =>
      cases second : other.step event with
      | error cause => exact .none
      | ok next => simp [AlikeResults, first, second, Except.toOption] at one
    | ok next =>
      cases second : other.step event with
      | error cause => simp [AlikeResults, first, second, Except.toOption] at one
      | ok further =>
        rw [first, second] at one
        cases one with
        | some alike => exact ih alike

/-- Collectors that are alike end with the same records, or with a fault on both sides. -/
theorem AlikeResults.conclude {one other : Except SheetError Collector}
    (alike : AlikeResults one other) (rest : List Event) (fault? : Option MarkupError) :
    (one >>= fun collector => conclude collector rest fault?).toOption =
      (other >>= fun collector => conclude collector rest fault?).toOption := by
  cases one with
  | error cause =>
    cases other with
    | error cause => rfl
    | ok collector => simp [AlikeResults, Except.toOption] at alike
  | ok collector =>
    cases other with
    | error cause => simp [AlikeResults, Except.toOption] at alike
    | ok other =>
      have alike : Alike collector other := by simpa [AlikeResults, Except.toOption] using alike
      have run := alike.foldlM rest
      change (CellRecord.conclude collector rest fault?).toOption =
        (CellRecord.conclude other rest fault?).toOption
      unfold CellRecord.conclude
      revert run
      cases rest.foldlM Collector.step collector with
      | error cause =>
        cases rest.foldlM Collector.step other with
        | error cause => exact fun _ => rfl
        | ok next => simp [AlikeResults, Except.toOption]
      | ok next =>
        cases rest.foldlM Collector.step other with
        | error cause => simp [AlikeResults, Except.toOption]
        | ok further =>
          intro run
          have alike : Alike next further := by simpa [AlikeResults, Except.toOption] using run
          cases fault? with
          | some fault => rfl
          | none => exact congrArg (fun records => some (List.reverse records)) alike.records

/-! ### What is known of a collector -/

/-- The name of an element, without its prefix. -/
def elementName (name : List Char) : String :=
  String.ofList (Markup.localName name)

/-- Texts are collected in cells only, and a cell that has been started is still open. -/
structure Tracks (opened : List (List Char)) (collector : Collector) : Prop where
  outside : collector.pending? = none → collector.field = .outside
  inside : collector.pending? ≠ none → ∃ name ∈ opened, elementName name = "cell"

theorem step_start_cell {tag : Tag} (named : elementName tag.name = "cell") :
    collector.step (.start tag) = startCell tag >>= fun pending =>
      .ok { collector with pending? := some pending } := by
  simp only [step, start]
  exact if_pos named

theorem step_empty_cell {tag : Tag} (named : elementName tag.name = "cell") :
    collector.step (.empty tag) = startCell tag >>= fun pending =>
      finishCell pending >>= fun record =>
        .ok { collector with records := record :: collector.records } := by
  simp only [step]
  exact if_pos named

theorem step_empty_other {tag : Tag} (other : elementName tag.name ≠ "cell") :
    collector.step (.empty tag) = .ok collector := by
  simp only [step]
  exact if_neg other

theorem step_stop_other {name : List Char} (other : elementName name ≠ "cell") :
    collector.step (.stop name) =
      if elementName name = "bgcolor" ∨ elementName name = "text" then
        .ok { collector with field := .outside }
      else .ok collector := by
  simp only [step, stop]
  exact if_neg other

section Tracks

variable {opened inside : List (List Char)} {added : List Event} {next : Collector}

theorem tracks_initial (opened : List (List Char)) : Tracks opened .initial :=
  ⟨fun _ => rfl, fun pending => absurd rfl pending⟩

/-- What is started inside a cell, other than a cell, leaves it a cell that has been started. -/
theorem Tracks.start (tracks : Tracks opened collector) {tag : Tag}
    (done : collector.step (.start tag) = .ok next) : Tracks (tag.name :: opened) next := by
  have deeper (started : collector.pending? ≠ none) :
      ∃ name ∈ tag.name :: opened, elementName name = "cell" := by
    obtain ⟨name, member, named⟩ := tracks.inside started
    exact ⟨name, List.mem_cons_of_mem _ member, named⟩
  by_cases named : elementName tag.name = "cell"
  · rw [step_start_cell named] at done
    obtain ⟨pending, -, done⟩ := exists_of_bind_ok done
    obtain rfl := Except.ok.inj done
    exact ⟨by simp, fun _ => ⟨tag.name, List.mem_cons_self, named⟩⟩
  · have other : ¬ String.ofList (Markup.localName tag.name) = "cell" := named
    simp only [step, Collector.start, if_neg other] at done
    split at done
    next pending started =>
      have deeper := deeper (by simp [started])
      split at done
      next =>
        obtain rfl := Except.ok.inj done
        exact ⟨by simp, fun _ => deeper⟩
      next =>
        split at done
        all_goals
          obtain rfl := Except.ok.inj done
          exact ⟨by simp [started], fun _ => deeper⟩
    next none =>
      obtain rfl := Except.ok.inj done
      exact ⟨tracks.outside, deeper⟩

theorem Tracks.stop {name : List Char} (tracks : Tracks (name :: opened) collector)
    (done : collector.step (.stop name) = .ok next) : Tracks opened next := by
  by_cases named : elementName name = "cell"
  · have cell : String.ofList (Markup.localName name) = "cell" := named
    simp only [step, Collector.stop, if_pos cell] at done
    split at done
    next =>
      obtain ⟨record, -, done⟩ := exists_of_bind_ok done
      obtain rfl := Except.ok.inj done
      exact ⟨fun _ => rfl, by simp⟩
    next none =>
      obtain rfl := Except.ok.inj done
      exact ⟨fun _ => rfl, by simp [none]⟩
  · have shallower (started : collector.pending? ≠ none) :
        ∃ name ∈ opened, elementName name = "cell" := by
      obtain ⟨further, member, cell⟩ := tracks.inside started
      rcases List.mem_cons.mp member with rfl | later
      · exact absurd cell named
      · exact ⟨further, later, cell⟩
    rw [step_stop_other named] at done
    split at done
    · obtain rfl := Except.ok.inj done
      exact ⟨fun _ => rfl, shallower⟩
    · obtain rfl := Except.ok.inj done
      exact ⟨tracks.outside, shallower⟩

/-- Texts and elements without content neither start a cell nor end one. -/
theorem Tracks.addText (tracks : Tracks opened collector) {pending : Pending}
    (started : collector.pending? = some pending) (text : String) :
    Tracks opened (collector.addText pending text) := by
  have inside : ∃ name ∈ opened, elementName name = "cell" := tracks.inside (by simp [started])
  unfold Collector.addText
  split
  · exact tracks
  · exact ⟨by simp, fun _ => inside⟩
  · exact ⟨by simp, fun _ => inside⟩

/-- **Steps.** What is known of a collector stays known over what a character adds. -/
theorem Tracks.step (tracks : Tracks opened collector) (adds : Reader.Adds opened added inside)
    (done : added.foldlM Collector.step collector = .ok next) : Tracks inside next := by
  cases adds with
  | nothing =>
    obtain rfl := Except.ok.inj done
    exact tracks
  | start tag =>
    rw [foldlM_singleton] at done
    exact tracks.start done
  | stop innermost =>
    rw [foldlM_singleton] at done
    subst innermost
    exact tracks.stop done
  | empty tag =>
    rw [foldlM_singleton] at done
    by_cases named : elementName tag.name = "cell"
    · rw [step_empty_cell named] at done
      obtain ⟨pending, -, done⟩ := exists_of_bind_ok done
      obtain ⟨record, -, done⟩ := exists_of_bind_ok done
      obtain rfl := Except.ok.inj done
      exact ⟨tracks.outside, tracks.inside⟩
    · rw [step_empty_other named] at done
      obtain rfl := Except.ok.inj done
      exact tracks
  | text text =>
    rw [foldlM_singleton] at done
    simp only [Collector.step] at done
    split at done
    next pending started =>
      split at done
      next =>
        obtain rfl := Except.ok.inj done
        exact tracks.addText started _
      next => cases done
    next =>
      obtain rfl := Except.ok.inj done
      exact tracks
  | cdata text =>
    rw [foldlM_singleton] at done
    simp only [Collector.step] at done
    split at done
    next pending started _ =>
      obtain rfl := Except.ok.inj done
      exact tracks.addText started _
    next =>
      obtain rfl := Except.ok.inj done
      exact tracks

/-- **Runs.** What is known of a collector is known wherever a document has been read to. -/
theorem tracks_foldl (characters : List Char) {reader : Reader}
    (known : ∀ collector, reader.events.reverse.foldlM Collector.step .initial = .ok collector →
      Tracks reader.opened collector) :
    ∀ collector, (characters.foldl Reader.step reader).events.reverse.foldlM Collector.step
      .initial = .ok collector → Tracks (characters.foldl Reader.step reader).opened collector := by
  induction characters generalizing reader with
  | nil => exact known
  | cons c characters ih =>
    obtain ⟨mode, opened, events⟩ := reader
    obtain ⟨next, inside, added, steps, adds⟩ := Reader.exists_step mode opened c
    refine ih fun collector done => ?_
    rw [steps] at done ⊢
    -- What the character adds comes behind all that has been read.
    have single : (added ++ events).reverse = events.reverse ++ added := by
      cases adds <;> simp
    rw [single] at done
    obtain ⟨between, first, last⟩ := exists_of_foldlM_append_ok done
    exact (known between first).step adds last

end Tracks

end Collector

end Worksheet.CellRecord
