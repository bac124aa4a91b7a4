import Worksheet.Markup.Event
import Worksheet.Proofs.Markup.Escape

/-!
# Reading a document piece by piece

A reader goes through the characters one by one, so what it does on a document follows from what it
does on the pieces of the document. Where the characters of a piece are not known, it is enough to
know which of them do not occur: a text goes on up to the next bracket, and a quoted part up to the
next quote.
-/

namespace Worksheet.Markup.Reader

/-- Reading some characters takes a reader from one state to another. -/
def Reads (reader : Reader) (characters : String) (next : Reader) : Prop :=
  characters.toList.foldl step reader = next

variable {reader between next : Reader} {first second : String}

theorem Reads.append (one : reader.Reads first between) (two : between.Reads second next) :
    reader.Reads (first ++ second) next := by
  rw [Reads, String.toList_append, List.foldl_append, one]
  exact two

/-- The events after a text, which is an event unless it is empty. -/
def flushed (text : String) (events : List Event) : List Event :=
  if text = "" then events else .text text :: events

theorem flush_eq (text : String) (mode : Mode) :
    reader.flush text mode = ⟨mode, reader.opened, flushed text reader.events⟩ := by
  unfold flush flushed
  split <;> rfl

variable {read : String} {opened : List (List Char)} {events : List Event}

/-- A text goes on up to a bracket. -/
theorem reads_text {text : String} (plain : '<' ∉ text.toList) :
    Reads ⟨.text read, opened, events⟩ text ⟨.text (read ++ text), opened, events⟩ := by
  have fold (characters : List Char) (plain : '<' ∉ characters) (read : String) :
      characters.foldl step ⟨.text read, opened, events⟩ =
        ⟨.text (read ++ String.ofList characters), opened, events⟩ := by
    induction characters generalizing read with
    | nil => simp
    | cons c characters ih =>
      have different : ¬ c = '<' := fun same => plain (same ▸ List.mem_cons_self)
      have one : step ⟨.text read, opened, events⟩ c = ⟨.text (read.push c), opened, events⟩ := by
        simp only [step, if_neg different]
      rw [List.foldl_cons, one, ih fun member => plain (List.mem_cons_of_mem _ member),
        push_append_ofList]
  rw [Reads, fold _ plain, String.ofList_toList]

/-- A bracket ends a text. -/
theorem step_bracket :
    step ⟨.text read, opened, events⟩ '<' = ⟨.opening, opened, flushed read events⟩ := by
  have one : step ⟨.text read, opened, events⟩ '<' =
      flush ⟨.text read, opened, events⟩ read .opening := rfl
  rw [one, flush_eq]

/-- After a text a construct is read as after its bracket. -/
theorem reads_of_bracket {construct : String} {rest : List Char}
    (starts : construct.toList = '<' :: rest)
    (further : rest.foldl step ⟨.opening, opened, flushed read events⟩ = next) :
    Reads ⟨.text read, opened, events⟩ construct next := by
  rw [Reads, starts, List.foldl_cons, step_bracket]
  exact further

/-- A quoted part of a tag goes on up to its quote. -/
theorem reads_quoted {text : String} {quote : Char} (plain : quote ∉ text.toList)
    (former : List Char) :
    Reads ⟨.tag former (some quote), opened, events⟩ text
      ⟨.tag (text.toList.reverse ++ former) (some quote), opened, events⟩ := by
  unfold Reads
  generalize text.toList = characters at plain
  induction characters generalizing former with
  | nil => rfl
  | cons c characters ih =>
    have different : ¬ c = quote := fun same => plain (same ▸ List.mem_cons_self)
    have one : step ⟨.tag former (some quote), opened, events⟩ c =
        ⟨.tag (c :: former) (some quote), opened, events⟩ := by
      simp only [step, quoteAfter?, if_neg different]
    rw [List.foldl_cons, one, ih (c :: former) fun member => plain (List.mem_cons_of_mem _ member),
      List.reverse_cons, List.append_assoc, List.singleton_append]

/-! ### What a character adds -/

/-- What one character may add: an event or none. A tag opens an element, and the end of an element
closes the innermost one that is open. -/
inductive Adds (opened : List (List Char)) : List Event → List (List Char) → Prop
  | nothing : Adds opened [] opened
  | text (text : String) : Adds opened [.text text] opened
  | cdata (text : String) : Adds opened [.cdata text] opened
  | start (tag : Tag) : Adds opened [.start tag] (tag.name :: opened)
  | empty (tag : Tag) : Adds opened [.empty tag] opened
  | stop {name : List Char} {others : List (List Char)} (innermost : opened = name :: others) :
      Adds opened [.stop name] others

/-- A reader with these open elements goes on in the same way whatever events came before, and adds
one event or none. -/
def Moves (opened : List (List Char)) (act : List Event → Reader) : Prop :=
  ∃ mode inside added, (∀ events, act events = ⟨mode, inside, added ++ events⟩) ∧
    Adds opened added inside

section Moves

variable {opened : List (List Char)}

theorem moves_to (mode : Mode) : Moves opened fun events => ⟨mode, opened, events⟩ :=
  ⟨mode, opened, [], fun _ => rfl, .nothing⟩

theorem Moves.ite {condition : Prop} [Decidable condition] {one other : List Event → Reader}
    (holds : Moves opened one) (fails : Moves opened other) :
    Moves opened fun events => if condition then one events else other events := by
  by_cases condition : condition
  · simpa only [if_pos condition] using holds
  · simpa only [if_neg condition] using fails

theorem moves_flush (former : Mode) (text : String) (mode : Mode) :
    Moves opened fun events => flush ⟨former, opened, events⟩ text mode :=
  .ite (moves_to mode) ⟨mode, opened, [.text text], fun _ => rfl, .text text⟩

theorem moves_endTag (former : Mode) (read : List Char) :
    Moves opened fun events => endTag ⟨former, opened, events⟩ read := by
  unfold endTag
  split
  next read => exact ⟨_, _, _, fun _ => rfl, .empty ⟨read.reverse⟩⟩
  next => exact ⟨_, _, _, fun _ => rfl, .start ⟨read.reverse⟩⟩

theorem moves_endClosing (former : Mode) (read : List Char) :
    Moves opened fun events => endClosing ⟨former, opened, events⟩ read := by
  unfold endClosing
  dsimp only
  cases opened with
  | nil => exact moves_to _
  | cons expected others =>
    dsimp only
    generalize (read.dropWhile isBlank).reverse = trimmed
    generalize (if trimmed = [] then read.reverse else trimmed) = name
    by_cases same : name = expected
    · subst same
      exact .ite ⟨_, _, _, fun _ => rfl, .stop rfl⟩ (moves_to _)
    · simp only [if_neg same]
      exact moves_to _

theorem moves_endCdata (former : Mode) (read : List Char) :
    Moves opened fun events => endCdata ⟨former, opened, events⟩ read :=
  .ite ⟨_, _, _, fun _ => rfl, .cdata _⟩ (moves_to _)

theorem moves_endComment (former : Mode) (read : List Char) :
    Moves opened fun events => endComment ⟨former, opened, events⟩ read :=
  .ite (moves_to _) (moves_to _)

theorem moves_endDoctype (former : Mode) (read : List Char) :
    Moves opened fun events => endDoctype ⟨former, opened, events⟩ read :=
  .ite (.ite (moves_to _) (moves_to _)) (moves_to _)

/-- A character of a tag is in quotes, or it may end the tag. -/
theorem moves_quoted (quote? : Option Char) (c : Char) (mode : Option Char → Mode)
    {ended : List Event → Reader} (ends : Moves opened ended) :
    Moves opened fun events => match quoteAfter? quote? c with
      | some quote? => ⟨mode quote?, opened, events⟩
      | none => ended events := by
  split
  next => exact moves_to _
  next => exact ends

/-- **Steps.** A character adds an event or none, whatever events came before. -/
theorem exists_step (mode : Mode) (opened : List (List Char)) (c : Char) :
    ∃ next inside added, (∀ events, step ⟨mode, opened, events⟩ c =
      ⟨next, inside, added ++ events⟩) ∧ Adds opened added inside := by
  change Moves opened fun events => step ⟨mode, opened, events⟩ c
  cases mode with
  | text read => exact .ite (moves_flush _ _ _) (moves_to _)
  | opening =>
    exact .ite (moves_to _) (.ite (moves_to _) (.ite (moves_to _)
      (moves_quoted none c (.tag [c]) (moves_endTag _ _))))
  | tag read quote? => exact moves_quoted quote? c (.tag (c :: read)) (moves_endTag _ _)
  | closing read quote? => exact moves_quoted quote? c (.closing (c :: read)) (moves_endClosing _ _)
  | instruction read =>
    refine .ite ?_ (moves_to _)
    split <;> exact moves_to _
  | declaration =>
    exact .ite (moves_to _) (.ite (moves_to _) (.ite (moves_to _) (moves_to _)))
  | cdata read =>
    unfold step
    dsimp only
    split
    next => exact moves_endCdata _ _
    next => exact moves_to _
  | comment read =>
    unfold step
    dsimp only
    split
    next => exact moves_endComment _ _
    next => exact moves_to _
  | doctype read depth =>
    refine .ite (moves_to _) (.ite ?_ (moves_to _))
    cases depth with
    | zero => exact moves_endDoctype _ _
    | succ depth => exact moves_to _
  | failed fault => exact moves_to _

/-- Reading on adds events after those that have been read, the same whatever these are. -/
theorem exists_foldl_step (mode : Mode) (opened : List (List Char)) (characters : List Char) :
    ∃ next inside added, ∀ events, characters.foldl step ⟨mode, opened, events⟩ =
      ⟨next, inside, added ++ events⟩ := by
  induction characters generalizing mode opened with
  | nil => exact ⟨mode, opened, [], fun _ => rfl⟩
  | cons c characters ih =>
    obtain ⟨between, inside, one, steps, -⟩ := exists_step mode opened c
    obtain ⟨next, last, further, reads⟩ := ih between inside
    refine ⟨next, last, further ++ one, fun events => ?_⟩
    rw [List.foldl_cons, steps, reads, List.append_assoc]

/-- No event is taken back. -/
theorem events_suffix_foldl (reader : Reader) (characters : List Char) :
    reader.events <:+ (characters.foldl step reader).events := by
  obtain ⟨mode, opened, events⟩ := reader
  obtain ⟨next, inside, added, reads⟩ := exists_foldl_step mode opened characters
  rw [reads]
  exact List.suffix_append added events

end Moves

end Worksheet.Markup.Reader

namespace Worksheet.Markup

/-- Characters without a mark of the byte order are read as they stand. -/
theorem events_ofList {characters : List Char} (plain : characters.head? ≠ some '\uFEFF') :
    events (String.ofList characters) =
      (characters.foldl Reader.step .initial).finish := by
  unfold events
  rw [String.toList_ofList]
  split
  next rest => exact absurd rfl plain
  next => rfl

end Worksheet.Markup
