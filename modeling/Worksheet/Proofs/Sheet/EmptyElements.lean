import Worksheet.Proofs.Sheet.Continuation

/-!
# Cells and elements without content

An element without content may be written as one tag or as two. For elements that cells do not have
this makes no difference, and outside of cells it makes none for any element. In a cell that has
been started two tags replace its color or its text by nothing, or the whole cell by another one,
and one tag does not.

So the two spellings agree just where there is nothing to replace. Where they do not, it shows in a
document that ends the cell, or starts another one, right after the element.
-/

namespace Worksheet.CellRecord

open Markup (Event IsName IsTag Reader Tag asOneTag asTwoTags endingTag readerAfter)

namespace Collector

variable {collector : Collector} {tag : Tag} {pending : Pending}

/-! ### One tag and two tags -/

/-- Reads the two tags of an element without content. -/
def twoTags (collector : Collector) (tag : Tag) : Except SheetError Collector :=
  [.start tag, .stop tag.name].foldlM step collector

/-- A cell as it starts has nothing that could be refused. -/
theorem exists_of_startCell (started : startCell tag = .ok pending) :
    ∃ record, finishCell pending = .ok record := by
  unfold startCell at started
  obtain ⟨name?, -, started⟩ := exists_of_bind_ok started
  split at started
  · cases started
  · cases started
  · split at started
    · obtain rfl := Except.ok.inj started
      exact ⟨_, rfl⟩
    · cases started

theorem twoTags_cell (named : elementName tag.name = "cell") :
    collector.twoTags tag = startCell tag >>= fun pending => finishCell pending >>= fun record =>
      .ok ⟨record :: collector.records, none, .outside⟩ := by
  unfold twoTags
  rw [List.foldlM_cons, step_start_cell named, bind_assoc]
  refine congrArg _ (funext fun pending => ?_)
  change [Event.stop tag.name].foldlM step { collector with pending? := some pending } = _
  rw [foldlM_singleton]
  simp only [step, stop]
  exact if_pos named

theorem twoTags_bgColor (started : collector.pending? = some pending)
    (named : elementName tag.name = "bgcolor") :
    collector.twoTags tag =
      .ok ⟨collector.records, some { pending with bgColor? := some "" }, .outside⟩ := by
  have other : elementName tag.name ≠ "cell" := by simp [named]
  have starts : collector.step (.start tag) =
      .ok ⟨collector.records, some { pending with bgColor? := some "" }, .bgColor⟩ := by
    simp only [step, start, started]
    exact (if_neg other).trans (if_pos named)
  rw [twoTags, foldlM_cons_ok starts rfl, foldlM_singleton, step_stop_other other,
    if_pos (Or.inl named)]

theorem twoTags_text (started : collector.pending? = some pending)
    (named : elementName tag.name = "text") :
    collector.twoTags tag =
      .ok ⟨collector.records, some { pending with text := "" }, .outside⟩ := by
  have other : elementName tag.name ≠ "cell" := by simp [named]
  have different : elementName tag.name ≠ "bgcolor" := by simp [named]
  have starts : collector.step (.start tag) =
      .ok ⟨collector.records, some { pending with text := "" }, .text⟩ := by
    simp only [step, start, started]
    exact (if_neg other).trans ((if_neg different).trans (if_pos named))
  rw [twoTags, foldlM_cons_ok starts rfl, foldlM_singleton, step_stop_other other,
    if_pos (Or.inr named)]

/-- Other elements say nothing. -/
theorem twoTags_other (other : elementName tag.name ≠ "cell")
    (silent : collector.pending? = none ∧ collector.field = .outside ∨
      elementName tag.name ≠ "bgcolor" ∧ elementName tag.name ≠ "text") :
    collector.twoTags tag = .ok collector := by
  obtain ⟨records, pending?, field⟩ := collector
  have starts : step ⟨records, pending?, field⟩ (.start tag) = .ok ⟨records, pending?, field⟩ := by
    simp only [step, start]
    refine (if_neg other).trans ?_
    cases pending? with
    | none => rfl
    | some pending =>
      rcases silent with ⟨none, -⟩ | ⟨noColor, noText⟩
      · cases none
      · exact (if_neg noColor).trans (if_neg noText)
  rw [twoTags, foldlM_cons_ok starts rfl, foldlM_singleton, step_stop_other other]
  rcases silent with ⟨-, outside⟩ | ⟨noColor, noText⟩
  · dsimp only at outside
    subst outside
    exact ite_self _
  · exact if_neg (not_or.mpr ⟨noColor, noText⟩)

/-! ### Where they are the same -/

/-- One tag says the same as two: no cell has been started, or the element is none that a cell has,
or it has neither a color nor a text of the cell to replace. A color that cannot be read may be
replaced by none, which cannot be read either. -/
structure Neutral (collector : Collector) (tag : Tag) : Prop where
  cell : elementName tag.name = "cell" → collector.pending? ≠ none →
    ∃ fault, startCell tag = .error fault
  bgColor : elementName tag.name = "bgcolor" → ∀ pending, collector.pending? = some pending →
    collector.field = .outside ∧
      ∃ color, pending.bgColor? = some color ∧ Color.ofText? color = none
  text : elementName tag.name = "text" → ∀ pending, collector.pending? = some pending →
    collector.field = .outside ∧ pending.text = ""

theorem ofText?_empty : Color.ofText? "" = none := by
  decide

theorem Neutral.alike {opened : List (List Char)} (neutral : collector.Neutral tag)
    (tracks : Tracks opened collector) :
    AlikeResults (collector.step (.empty tag)) (collector.twoTags tag) := by
  by_cases cell : elementName tag.name = "cell"
  · -- A cell between the two tags takes the place of one that has been started.
    rw [step_empty_cell cell, twoTags_cell cell]
    cases started : startCell tag with
    | error fault => exact .none
    | ok pending =>
      obtain ⟨record, finished⟩ := exists_of_startCell started
      have none : collector.pending? = none := by
        by_contra some
        obtain ⟨fault, refused⟩ := neutral.cell cell some
        exact absurd (started.symm.trans refused) (by simp)
      have same : { collector with records := record :: collector.records } =
          (⟨record :: collector.records, .none, .outside⟩ : Collector) := by
        rw [none, tracks.outside none]
      simp only [bind, Except.bind, finished, same]
      exact alikeResults_refl _
  · rw [step_empty_other cell]
    cases started : collector.pending? with
    | none =>
      rw [twoTags_other cell (Or.inl ⟨started, tracks.outside started⟩)]
      exact alikeResults_refl _
    | some pending =>
      by_cases bgColor : elementName tag.name = "bgcolor"
      · obtain ⟨outside, color, written, unread⟩ := neutral.bgColor bgColor pending started
        rw [twoTags_bgColor started bgColor]
        obtain ⟨records, pending?, field⟩ := collector
        obtain ⟨position, color?, text⟩ := pending
        dsimp only at started outside written
        subst started outside written
        exact alikeResults_ok (.unreadable records position text (by simp) unread ofText?_empty)
      · by_cases text : elementName tag.name = "text"
        · obtain ⟨outside, empty⟩ := neutral.text text pending started
          have same : collector =
              ⟨collector.records, some { pending with text := "" }, .outside⟩ := by
            rw [← empty, ← started, ← outside]
          rw [twoTags_text started text, ← same]
          exact alikeResults_refl _
        · rw [twoTags_other cell (Or.inr ⟨bgColor, text⟩)]
          exact alikeResults_refl _

/-! ### Where they are told apart -/

/-- The tags that end elements, from the innermost one on. -/
def endingTags (opened : List (List Char)) : List Char :=
  opened.flatMap fun name => '<' :: endingTag name

/-- What a document may go on with, where some elements are open, and the events of it. -/
def Continues (opened : List (List Char)) (after : List Char) (rest : List Event) : Prop :=
  ∃ inside, ∀ events, after.foldl Reader.step ⟨.text "", opened, events⟩ =
    ⟨.text "", inside, rest.reverse ++ events⟩

theorem Continues.finish {opened : List (List Char)} {after : List Char} {rest : List Event}
    (continues : Continues opened after rest) (events : List Event) :
    (after.foldl Reader.step ⟨.text "", opened, events⟩).finish =
      (events.reverse ++ rest, none) := by
  obtain ⟨inside, reads⟩ := continues
  simp [reads, Reader.finish, Reader.flush]

/-- All elements may be ended. -/
theorem continues_endingTags {opened : List (List Char)} (names : ∀ name ∈ opened, IsName name) :
    Continues opened (endingTags opened) (opened.map .stop) := by
  refine ⟨[], ?_⟩
  induction opened with
  | nil => exact fun _ => rfl
  | cons name opened ih =>
    obtain ⟨isName, others⟩ := List.forall_mem_cons.mp names
    intro events
    have opens : Reader.step ⟨.text "", name :: opened, events⟩ '<' =
        ⟨.opening, name :: opened, events⟩ := rfl
    have split : endingTags (name :: opened) = '<' :: (endingTag name ++ endingTags opened) := rfl
    rw [split, List.foldl_cons, opens, List.foldl_append, Reader.foldl_endingTag isName, ih others]
    simp

theorem foldlM_stops_of_none (names : List (List Char)) (records : List CellRecord) :
    (names.map Event.stop).foldlM step ⟨records, none, .outside⟩ =
      .ok ⟨records, none, .outside⟩ := by
  induction names with
  | nil => rfl
  | cons name names ih =>
    have one : step ⟨records, none, .outside⟩ (.stop name) = .ok ⟨records, none, .outside⟩ := by
      simp only [step, stop]
      repeat' split
      all_goals rfl
    exact foldlM_cons_ok one ih

/-- The end of the cell that has been started adds its record or refuses it; the ends of other
elements do nothing. -/
theorem foldlM_stops {names : List (List Char)} (cell : ∃ name ∈ names, elementName name = "cell")
    (records : List CellRecord) (pending : Pending) :
    (names.map Event.stop).foldlM step ⟨records, some pending, .outside⟩ =
      finishCell pending >>= fun record => .ok ⟨record :: records, none, .outside⟩ := by
  induction names with
  | nil => simp at cell
  | cons name names ih =>
    rw [List.map_cons, List.foldlM_cons]
    by_cases here : elementName name = "cell"
    · have stops : step ⟨records, some pending, .outside⟩ (.stop name) =
          finishCell pending >>= fun record => .ok ⟨record :: records, none, .outside⟩ := by
        simp only [step, stop]
        exact if_pos here
      rw [stops, bind_assoc]
      exact congrArg _ (funext fun record => foldlM_stops_of_none names _)
    · have stops : step ⟨records, some pending, .outside⟩ (.stop name) =
          .ok ⟨records, some pending, .outside⟩ := by
        rw [step_stop_other here]
        exact ite_self _
      rw [stops]
      refine ih ?_
      obtain ⟨further, member, named⟩ := cell
      rcases List.mem_cons.mp member with rfl | later
      · exact absurd named here
      · exact ⟨further, later, named⟩

/-- Some continuation tells two collectors apart. -/
def ToldApart (opened : List (List Char)) (one other : Collector) : Prop :=
  ∃ after rest, Continues opened after rest ∧
    (conclude one rest none).toOption ≠ (conclude other rest none).toOption

section ToldApart

variable {opened : List (List Char)} {records : List CellRecord}

/-- A text that cannot be read is refused in a cell only. -/
theorem toldApart_cell (pending : Pending) (field : Field) :
    ToldApart opened ⟨records, some pending, field⟩ ⟨records, none, .outside⟩ := by
  refine ⟨['&', '<', 'a', '>'], [.text "&", .start ⟨['a']⟩], ⟨['a'] :: opened, fun _ => rfl⟩, ?_⟩
  have refuses : (conclude ⟨records, some pending, field⟩ [.text "&", .start ⟨['a']⟩]
      none).toOption = none := rfl
  have reads : (conclude ⟨records, none, .outside⟩ [.text "&", .start ⟨['a']⟩] none).toOption =
      some records.reverse := rfl
  rw [refuses, reads]
  exact Option.some_ne_none _ |>.symm

/-- What is collected for a color or a text goes into a cell that is started later. -/
theorem toldApart_field (pending later : Pending) {field : Field} (inside : field ≠ .outside) :
    ToldApart opened ⟨records, some pending, field⟩ ⟨records, some later, .outside⟩ := by
  have named : CellRef.ofName? "A1" = some ⟨0, 0⟩ := by decide
  refine ⟨"<cell name=\x22A1\x22>x</cell>".toList,
    [.start (cellTag "A1".toList), .text "x", .stop ['c', 'e', 'l', 'l']],
    ⟨opened, fun _ => rfl⟩, ?_⟩
  have reads : (conclude ⟨records, some later, .outside⟩ [.start (cellTag "A1".toList), .text "x",
      .stop ['c', 'e', 'l', 'l']] none).toOption =
        some (⟨⟨0, 0⟩, Color.default, ""⟩ :: records).reverse := rfl
  cases field with
  | outside => exact absurd rfl inside
  | bgColor =>
    have refuses : (conclude ⟨records, some pending, .bgColor⟩ [.start (cellTag "A1".toList),
        .text "x", .stop ['c', 'e', 'l', 'l']] none).toOption = none := rfl
    rw [refuses, reads]
    exact Option.some_ne_none _ |>.symm
  | text =>
    have collects : (conclude ⟨records, some pending, .text⟩ [.start (cellTag "A1".toList),
        .text "x", .stop ['c', 'e', 'l', 'l']] none).toOption =
          some (⟨⟨0, 0⟩, Color.default, "x"⟩ :: records).reverse := rfl
    rw [collects, reads]
    simp

theorem conclude_stops (cell : ∃ name ∈ opened, elementName name = "cell") (pending : Pending) :
    conclude ⟨records, some pending, .outside⟩ (opened.map .stop) none =
      finishCell pending >>= fun record => .ok (record :: records).reverse := by
  rw [conclude, foldlM_stops cell, bind_assoc]
  rfl

variable (names : ∀ name ∈ opened, IsName name)
  (cell : ∃ name ∈ opened, elementName name = "cell")
include names cell

/-- A color that can be read, or none, is told from one that cannot when the cell ends. -/
theorem toldApart_bgColor {pending : Pending}
    (read : ∀ color, pending.bgColor? = some color → Color.ofText? color ≠ none) :
    ToldApart opened ⟨records, some pending, .outside⟩
      ⟨records, some { pending with bgColor? := some "" }, .outside⟩ := by
  refine ⟨endingTags opened, opened.map .stop, continues_endingTags names, ?_⟩
  obtain ⟨position, color?, text⟩ := pending
  have finishes : ∃ record, finishCell ⟨position, color?, text⟩ = .ok record := by
    cases color? with
    | none => exact ⟨_, rfl⟩
    | some written =>
      obtain ⟨color, known⟩ := Option.ne_none_iff_exists'.mp (read written rfl)
      refine ⟨⟨position, color, text⟩, ?_⟩
      simp only [finishCell, known]
      rfl
  obtain ⟨record, finishes⟩ := finishes
  rw [conclude_stops cell, conclude_stops cell, finishes,
    finishCell_of_unreadable position text ofText?_empty]
  exact Option.some_ne_none _

/-- Two texts are told apart when the cell ends, in a color that can be read. -/
theorem toldApart_text {pending : Pending} (text : pending.text ≠ "") :
    ToldApart opened ⟨records, some pending, .outside⟩
      ⟨records, some { pending with text := "" }, .outside⟩ := by
  obtain ⟨position, color?, written⟩ := pending
  let painted : List Event := [.start ⟨bgColorName⟩, .text "FFFFFFFF", .stop bgColorName]
  refine ⟨"<bgcolor>FFFFFFFF</bgcolor>".toList ++ endingTags opened, painted ++ opened.map .stop,
    ?_, ?_⟩
  · obtain ⟨inside, ends⟩ := continues_endingTags names
    have paints (events : List Event) : "<bgcolor>FFFFFFFF</bgcolor>".toList.foldl Reader.step
        ⟨.text "", opened, events⟩ = ⟨.text "", opened, painted.reverse ++ events⟩ := rfl
    refine ⟨inside, fun events => ?_⟩
    rw [List.foldl_append, paints, ends, List.reverse_append, List.append_assoc]
  · have concludes (text : String) : (conclude ⟨records, some ⟨position, color?, text⟩, .outside⟩
        (painted ++ opened.map .stop) none).toOption =
          some (⟨position, Color.default, text⟩ :: records).reverse := by
      have paints : painted.foldlM step ⟨records, some ⟨position, color?, text⟩, .outside⟩ =
          .ok ⟨records, some ⟨position, some "FFFFFFFF", text⟩, .outside⟩ := rfl
      have finishes : finishCell ⟨position, some "FFFFFFFF", text⟩ =
          .ok ⟨position, Color.default, text⟩ := rfl
      rw [conclude_append, paints]
      change (conclude ⟨records, some ⟨position, some "FFFFFFFF", text⟩, .outside⟩
        (opened.map .stop) none).toOption = _
      rw [conclude_stops cell, finishes]
      rfl
    dsimp only at text ⊢
    rw [concludes, concludes]
    simpa using text

end ToldApart

/-- Where one tag does not say the same as two, some continuation shows it. -/
theorem Tracks.neutral {opened : List (List Char)} (tracks : Tracks opened collector)
    (names : ∀ name ∈ opened, IsName name)
    (agrees : ∀ one other, collector.step (.empty tag) = .ok one →
      collector.twoTags tag = .ok other → ¬ ToldApart opened one other) :
    collector.Neutral tag where
  cell named some := by
    obtain ⟨records, pending?, field⟩ := collector
    obtain ⟨pending, rfl⟩ := Option.ne_none_iff_exists'.mp some
    cases started : startCell tag with
    | error fault => exact ⟨fault, rfl⟩
    | ok inner =>
      obtain ⟨record, finishes⟩ := exists_of_startCell started
      refine absurd (toldApart_cell pending field) (agrees ⟨record :: records, _, _⟩
        ⟨record :: records, _, _⟩ ?_ ?_)
      · rw [step_empty_cell named, started]
        simp [bind, Except.bind, finishes]
      · rw [twoTags_cell named, started]
        simp [bind, Except.bind, finishes]
  bgColor named pending some := by
    have other : elementName tag.name ≠ "cell" := by simp [named]
    have differ := agrees _ _ (step_empty_other other) (twoTags_bgColor some named)
    obtain ⟨records, pending?, field⟩ := collector
    obtain rfl : pending? = .some pending := some
    by_cases inside : field = .outside
    · subst inside
      refine ⟨rfl, ?_⟩
      -- Nothing is no color: with it the cell is refused, so it must have been refused before.
      by_contra read
      refine differ (toldApart_bgColor names (tracks.inside (by simp))
        fun color written unread => ?_)
      exact read ⟨color, written, unread⟩
    · exact absurd (toldApart_field _ _ inside) differ
  text named pending some := by
    have other : elementName tag.name ≠ "cell" := by simp [named]
    have differ := agrees _ _ (step_empty_other other) (twoTags_text some named)
    obtain ⟨records, pending?, field⟩ := collector
    obtain rfl : pending? = .some pending := some
    by_cases inside : field = .outside
    · subst inside
      refine ⟨rfl, ?_⟩
      by_contra written
      exact differ (toldApart_text names (tracks.inside (by simp)) written)
    · exact absurd (toldApart_field _ _ inside) differ

end Collector

/-! ### Documents -/

/-- A document in which an element without content is written as one tag. -/
def withOneTag (before content after : List Char) : String :=
  String.ofList (before ++ '<' :: (asOneTag content ++ after))

/-- A document in which an element without content is written as two tags. -/
def withTwoTags (before content after : List Char) : String :=
  String.ofList (before ++ '<' :: (asTwoTags content ++ after))

section Documents

variable {before content after : List Char} {opened : List (List Char)} {events rest : List Event}
  {fault? : Option MarkupError}

theorem parse_withOneTag (reads : readerAfter (before ++ ['<']) = ⟨.opening, opened, events⟩)
    (tag : IsTag content)
    (ends : ∀ events, (after.foldl Reader.step ⟨.text "", opened, events⟩).finish =
      (events.reverse ++ rest, fault?)) :
    parse (withOneTag before content after) = collectedAt before >>= fun collector =>
      collector.step (.empty ⟨content⟩) >>= fun collector => conclude collector rest fault? := by
  rw [withOneTag, parse_split [.empty ⟨content⟩] reads (Reader.foldl_asOneTag tag) ends]
  simp only [foldlM_singleton]

theorem parse_withTwoTags (reads : readerAfter (before ++ ['<']) = ⟨.opening, opened, events⟩)
    (tag : IsTag content)
    (ends : ∀ events, (after.foldl Reader.step ⟨.text "", opened, events⟩).finish =
      (events.reverse ++ rest, fault?)) :
    parse (withTwoTags before content after) = collectedAt before >>= fun collector =>
      collector.twoTags ⟨content⟩ >>= fun collector => conclude collector rest fault? :=
  parse_split [.start ⟨content⟩, .stop (Tag.name ⟨content⟩)] reads
    (Reader.foldl_asTwoTags tag) ends

theorem tracks_collectedAt (reads : readerAfter (before ++ ['<']) = ⟨.opening, opened, events⟩)
    {collector : Collector} (collected : collectedAt before = .ok collector) :
    collector.Tracks opened := by
  have initial : ∀ collector, Reader.initial.events.reverse.foldlM Collector.step .initial =
      .ok collector → collector.Tracks Reader.initial.opened := by
    intro collector done
    obtain rfl := Except.ok.inj done
    exact Collector.tracks_initial _
  have tracks := Collector.tracks_foldl (Markup.withoutMark (before ++ ['<'])) initial collector
    collected
  change collector.Tracks (readerAfter (before ++ ['<'])).opened at tracks
  rwa [reads] at tracks

/-- **Elements without content.** Take any document in which a tag may stand at some place, and any
tag of an element without content to be put there. If the tag says the same as two tags there, then
both spellings are read as the same records or are both refused, however the document goes on.
Otherwise it can go on such that they are not, as long as the open elements have names with which
they can be ended. -/
theorem one_tag_eq_two_tags (tag : IsTag content)
    (reads : readerAfter (before ++ ['<']) = ⟨.opening, opened, events⟩) :
    ((∀ collector, collectedAt before = .ok collector → collector.Neutral ⟨content⟩) →
      ∀ after, (parse (withOneTag before content after)).toOption =
        (parse (withTwoTags before content after)).toOption) ∧
    ((∀ name ∈ opened, IsName name) →
      (∀ after, (parse (withOneTag before content after)).toOption =
        (parse (withTwoTags before content after)).toOption) →
      ∀ collector, collectedAt before = .ok collector → collector.Neutral ⟨content⟩) := by
  refine ⟨fun neutral after => ?_, fun names agrees collector collected => ?_⟩
  · obtain ⟨rest, fault?, ends⟩ := Reader.exists_finish (.text "") opened after
    rw [parse_withOneTag reads tag ends, parse_withTwoTags reads tag ends]
    cases collected : collectedAt before with
    | error fault => rfl
    | ok collector =>
      exact ((neutral collector collected).alike (tracks_collectedAt reads collected)).conclude
        rest fault?
  · refine (tracks_collectedAt reads collected).neutral names
      fun one other oneDone twoDone told => ?_
    obtain ⟨after, rest, continues, differ⟩ := told
    have same := agrees after
    rw [parse_withOneTag reads tag continues.finish, parse_withTwoTags reads tag continues.finish,
      collected] at same
    apply differ
    simpa [bind, Except.bind, oneDone, twoDone] using same

/-- A first text of a cell may be left out in one tag. -/
theorem one_tag_for_first_text :
    let before := "<cell name=\x22A1\x22>".toList
    IsTag textName ∧ readerAfter (before ++ ['<']) =
        ⟨.opening, [['c', 'e', 'l', 'l']], [.start (cellTag ['A', '1'])]⟩ ∧
      ∀ after, (parse (withOneTag before textName after)).toOption =
        (parse (withTwoTags before textName after)).toOption := by
  intro before
  have tag : IsTag textName := by
    refine ⟨⟨'t', rfl, by decide⟩, by simp [IsName, Tag.name, textName, Markup.isBlank], ?_,
      by simp [textName]⟩
    exact .plain (by decide) (.plain (by decide) (.plain (by decide) (.plain (by decide) .nil)))
  have reads : readerAfter (before ++ ['<']) =
      ⟨.opening, [['c', 'e', 'l', 'l']], [.start (cellTag ['A', '1'])]⟩ := rfl
  refine ⟨tag, reads, (one_tag_eq_two_tags tag reads).1 fun collector collected => ?_⟩
  obtain rfl : ⟨[], some ⟨⟨0, 0⟩, none, ""⟩, .outside⟩ = collector := Except.ok.inj collected
  refine ⟨fun named => absurd named (by decide), fun named => absurd named (by decide),
    fun _ pending started => ?_⟩
  obtain rfl := Option.some.inj started
  exact ⟨rfl, rfl⟩

/-- A text without content replaces the one that the cell has already if it is written as two tags,
and is passed over if it is written as one. -/
theorem second_text_told_apart :
    let before := "<cell name=\x22A1\x22><text>7</text>".toList
    let after := "</cell>".toList
    withOneTag before textName after = "<cell name=\x22A1\x22><text>7</text><text/></cell>" ∧
      withTwoTags before textName after =
        "<cell name=\x22A1\x22><text>7</text><text></text></cell>" ∧
      parse (withOneTag before textName after) = .ok [⟨⟨0, 0⟩, Color.default, "7"⟩] ∧
      parse (withTwoTags before textName after) = .ok [⟨⟨0, 0⟩, Color.default, ""⟩] :=
  ⟨rfl, rfl, rfl, rfl⟩

end Documents

end Worksheet.CellRecord
