import Mathlib.Data.List.TakeWhile
import Worksheet.Proofs.Markup.Event

/-!
# Elements without content

An element without content is written as one tag that ends with a slash, or as a tag that starts it
and one that ends it at once. Wherever a tag may stand, a reader gets from both to the same state;
only the events are different, one in the first case and two in the second.

What is read afterwards does not depend on these events, so a document with one spelling has the
events of the document with the other one, but for this element.
-/

namespace Worksheet.Markup

/-! ### Tags -/

/-- A name that can be written in the tag that ends an element. -/
def IsName (name : List Char) : Prop :=
  ∀ c ∈ name, isBlank c = false ∧ c ≠ '>' ∧ c ≠ '\x22' ∧ c ≠ '\x27'

/-- The quotes in a tag come in pairs, and a closing bracket stands between quotes only. -/
inductive IsQuoted : List Char → Prop where
  | nil : IsQuoted []
  | plain {c : Char} {rest : List Char} (other : c ≠ '>' ∧ c ≠ '\x22' ∧ c ≠ '\x27')
      (further : IsQuoted rest) : IsQuoted (c :: rest)
  | quoted {quote : Char} {inside rest : List Char} (kind : quote = '\x22' ∨ quote = '\x27')
      (ends : quote ∉ inside) (further : IsQuoted rest) :
      IsQuoted (quote :: (inside ++ quote :: rest))

/-- What stands in a tag that starts an element: a name first, and no slash at the end. -/
structure IsTag (content : List Char) : Prop where
  begins : ∃ c ∈ content.head?, c ≠ '/' ∧ c ≠ '?' ∧ c ≠ '!'
  name : IsName (Tag.name ⟨content⟩)
  quoted : IsQuoted content
  ends : content.getLast? ≠ some '/'

/-- The tag of an element without content, after its first bracket. -/
def asOneTag (content : List Char) : List Char :=
  content ++ ['/', '>']

/-- The tag that ends an element, after its first bracket. -/
def endingTag (name : List Char) : List Char :=
  '/' :: (name ++ ['>'])

/-- The two tags of an element without content, after the first bracket. -/
def asTwoTags (content : List Char) : List Char :=
  content ++ '>' :: '<' :: endingTag (Tag.name ⟨content⟩)

namespace Reader

variable {opened : List (List Char)} {events : List Event} {content name : List Char}

theorem foldl_quoted (quoted : IsQuoted content) (former : List Char) :
    content.foldl step ⟨.tag former none, opened, events⟩ =
      ⟨.tag (content.reverse ++ former) none, opened, events⟩ := by
  induction quoted generalizing former with
  | nil => rfl
  | @plain c rest other further ih =>
    have one : step ⟨.tag former none, opened, events⟩ c =
        ⟨.tag (c :: former) none, opened, events⟩ := by
      simp [step, quoteAfter?, other]
    rw [List.foldl_cons, one, ih]
    simp
  | @quoted quote inside rest kind ends further ih =>
    have opens : step ⟨.tag former none, opened, events⟩ quote =
        ⟨.tag (quote :: former) (some quote), opened, events⟩ := by
      rcases kind with rfl | rfl <;> rfl
    have goes : inside.foldl step ⟨.tag (quote :: former) (some quote), opened, events⟩ =
        ⟨.tag (inside.reverse ++ quote :: former) (some quote), opened, events⟩ := by
      have plain : quote ∉ (String.ofList inside).toList := by rwa [String.toList_ofList]
      have reads : Reads ⟨.tag (quote :: former) (some quote), opened, events⟩ _ _ :=
        reads_quoted plain (quote :: former)
      rwa [Reads, String.toList_ofList] at reads
    have closes (read : List Char) : step ⟨.tag read (some quote), opened, events⟩ quote =
        ⟨.tag (quote :: read) none, opened, events⟩ := by
      simp [step, quoteAfter?]
    rw [List.foldl_cons, opens, List.foldl_append, goes, List.foldl_cons, closes, ih]
    simp

/-- A tag is read up to the bracket that ends it. -/
theorem foldl_tag (tag : IsTag content) : content.foldl step ⟨.opening, opened, events⟩ =
    ⟨.tag content.reverse none, opened, events⟩ := by
  obtain ⟨c, first, solidus, question, exclamation⟩ := tag.begins
  obtain ⟨rest, rfl⟩ := List.head?_eq_some_iff.mp first
  have begins : step ⟨.opening, opened, events⟩ c = step ⟨.tag [] none, opened, events⟩ c := by
    simp only [step, if_neg solidus, if_neg question, if_neg exclamation]
    rfl
  rw [List.foldl_cons, begins, ← List.foldl_cons, foldl_quoted tag.quoted, List.append_nil]

theorem foldl_asOneTag (tag : IsTag content) :
    (asOneTag content).foldl step ⟨.opening, opened, events⟩ =
      ⟨.text "", opened, .empty ⟨content⟩ :: events⟩ := by
  have ends (read : List Char) : ['/', '>'].foldl step ⟨.tag read none, opened, events⟩ =
      ⟨.text "", opened, .empty ⟨read.reverse⟩ :: events⟩ := rfl
  rw [asOneTag, List.foldl_append, foldl_tag tag, ends, List.reverse_reverse]

/-- The name of the innermost element ends it. -/
theorem foldl_endingTag (isName : IsName name) :
    (endingTag name).foldl step ⟨.opening, name :: opened, events⟩ =
      ⟨.text "", opened, .stop name :: events⟩ := by
  have reads (characters former : List Char) (isName : IsName characters) :
      characters.foldl step ⟨.closing former none, name :: opened, events⟩ =
        ⟨.closing (characters.reverse ++ former) none, name :: opened, events⟩ := by
    induction characters generalizing former with
    | nil => rfl
    | cons c characters ih =>
      obtain ⟨⟨-, other⟩, later⟩ := List.forall_mem_cons.mp isName
      have one : step ⟨.closing former none, name :: opened, events⟩ c =
          ⟨.closing (c :: former) none, name :: opened, events⟩ := by
        simp [step, quoteAfter?, other]
      rw [List.foldl_cons, one, ih _ later]
      simp
  have solid : (name.reverse.dropWhile isBlank).reverse = name := by
    have kept : name.reverse.dropWhile isBlank = name.reverse := by
      cases reversed : name.reverse with
      | nil => rfl
      | cons c rest =>
        have member : c ∈ name := List.mem_reverse.mp (reversed ▸ List.mem_cons_self)
        simp [(isName c member).1]
    rw [kept, List.reverse_reverse]
  have opens : step ⟨.opening, name :: opened, events⟩ '/' =
      ⟨.closing [] none, name :: opened, events⟩ := rfl
  have closes (read : List Char) : step ⟨.closing read none, name :: opened, events⟩ '>' =
      endClosing ⟨.closing read none, name :: opened, events⟩ read := rfl
  rw [endingTag, List.foldl_cons, opens, List.foldl_append, reads name [] isName, List.append_nil,
    List.foldl_cons, closes, List.foldl_nil]
  simp only [endClosing, solid, List.reverse_reverse, ite_self, if_true]
  rfl

theorem foldl_asTwoTags (tag : IsTag content) :
    (asTwoTags content).foldl step ⟨.opening, opened, events⟩ =
      ⟨.text "", opened, .stop (Tag.name ⟨content⟩) :: .start ⟨content⟩ :: events⟩ := by
  have starts : step ⟨.tag content.reverse none, opened, events⟩ '>' =
      ⟨.text "", Tag.name ⟨content⟩ :: opened, .start ⟨content⟩ :: events⟩ := by
    have ended : step ⟨.tag content.reverse none, opened, events⟩ '>' =
        endTag ⟨.tag content.reverse none, opened, events⟩ content.reverse := rfl
    rw [ended]
    unfold endTag
    split
    next read last =>
      have slash : content.getLast? = some '/' := by
        rw [List.getLast?_eq_head?_reverse, last, List.head?_cons]
      exact absurd slash tag.ends
    next =>
      rw [List.reverse_reverse]
      rfl
  have opens (opened : List (List Char)) (events : List Event) :
      step ⟨.text "", opened, events⟩ '<' = ⟨.opening, opened, events⟩ := rfl
  rw [asTwoTags, List.foldl_append, foldl_tag tag, List.foldl_cons, starts, List.foldl_cons, opens,
    foldl_endingTag tag.name]

end Reader

/-! ### From the start of a document -/

/-- Characters without a mark of the byte order at their start. -/
def withoutMark (characters : List Char) : List Char :=
  match characters with
  | '\uFEFF' :: rest => rest
  | characters => characters

/-- Where a reader is after the first characters of a document. -/
def readerAfter (characters : List Char) : Reader :=
  (withoutMark characters).foldl Reader.step .initial

theorem events_eq_readerAfter (characters : List Char) :
    events (String.ofList characters) = (readerAfter characters).finish := by
  rw [events, String.toList_ofList]
  rfl

theorem readerAfter_append {first : List Char} (nonempty : first ≠ []) (second : List Char) :
    readerAfter (first ++ second) = second.foldl Reader.step (readerAfter first) := by
  obtain ⟨c, rest, rfl⟩ := List.exists_cons_of_ne_nil nonempty
  have mark : withoutMark (c :: rest ++ second) = withoutMark (c :: rest) ++ second := by
    by_cases first : c = '\uFEFF'
    · subst first
      rfl
    · have kept (others : List Char) : withoutMark (c :: others) = c :: others := by
        unfold withoutMark
        split
        next same => exact absurd (List.cons_eq_cons.mp same).1 first
        next => rfl
      exact (kept (rest ++ second)).trans (congrArg (· ++ second) (kept rest).symm)
  rw [readerAfter, mark, List.foldl_append]
  rfl

/-- What is read to the end of a document, and its fault, do not depend on what came before. -/
theorem Reader.exists_finish (mode : Mode) (opened : List (List Char)) (characters : List Char) :
    ∃ rest fault?, ∀ events, (characters.foldl step ⟨mode, opened, events⟩).finish =
      (events.reverse ++ rest, fault?) := by
  obtain ⟨last, inside, added, reads⟩ := exists_foldl_step mode opened characters
  have ended : ∃ rest fault?, ∀ events,
      finish ⟨last, inside, events⟩ = (events.reverse ++ rest, fault?) := by
    cases last with
    | text read =>
      refine ⟨(flushed read []).reverse, none, fun events => ?_⟩
      simp only [finish, flush_eq]
      unfold flushed
      split <;> simp
    | opening | tag | closing | instruction | declaration | cdata | comment | doctype | failed =>
      exact ⟨[], _, fun events => Prod.ext (List.append_nil _).symm rfl⟩
  obtain ⟨rest, fault?, ended⟩ := ended
  refine ⟨added.reverse ++ rest, fault?, fun events => ?_⟩
  rw [reads, ended, List.reverse_append, List.append_assoc]

end Worksheet.Markup
