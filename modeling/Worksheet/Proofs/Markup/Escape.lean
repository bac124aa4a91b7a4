import Mathlib.Data.List.Basic
import Worksheet.Markup.Escape

/-!
# Escaping and its inverse

An escaped text is read character by character: what one character is written as is read as this
character again, with no ampersand left open. A text without ampersands is read as it stands.
-/

namespace Worksheet.Markup

/-- A character is added to what has been read, or to what is still to be read. -/
theorem push_append_ofList (read : String) (c : Char) (characters : List Char) :
    read.push c ++ String.ofList characters = read ++ String.ofList (c :: characters) :=
  String.toList_injective (by simp)

/-- Reading a spelling adds one character to what has been read, from whatever state outside of an
entity. -/
def Spells (spelling : List Char) (c : Char) : Prop :=
  ∀ (length : Nat) (read : String) (offset : Nat), ∃ offset',
    spelling.foldlM (Unescaping.step length) ⟨read, offset, none⟩ =
      .ok ⟨read.push c, offset', none⟩

theorem spells_singleton {c : Char} (plain : c ≠ '&') : Spells [c] c := by
  intro length read offset
  refine ⟨offset + c.utf8Size, ?_⟩
  simp only [List.foldlM_cons, List.foldlM_nil, Unescaping.step, if_neg plain]
  rfl

/-- What a character is escaped as spells the character. -/
theorem spells_escapeChar (c : Char) : Spells (escapeChar c) c := by
  unfold escapeChar
  split
  · exact fun _ _ _ => ⟨_, rfl⟩
  · exact fun _ _ _ => ⟨_, rfl⟩
  · exact fun _ _ _ => ⟨_, rfl⟩
  · exact fun _ _ _ => ⟨_, rfl⟩
  · exact fun _ _ _ => ⟨_, rfl⟩
  next plain _ _ _ _ => exact spells_singleton plain

/-- A text that is spelled character by character is read as that text, whatever the spellings are
taken from. -/
theorem unescape_flatMap {α : Type} {spelling : α → List Char} {char : α → Char} {inputs : List α}
    (spells : ∀ input ∈ inputs, Spells (spelling input) (char input)) :
    unescape (String.ofList (inputs.flatMap spelling)) = .ok (String.ofList (inputs.map char)) := by
  -- The offset is counted for the faults only, so it does not matter where it ends.
  have fold (length : Nat) (read : String) (offset : Nat) : ∃ offset',
      (inputs.flatMap spelling).foldlM (Unescaping.step length) ⟨read, offset, none⟩ =
        .ok ⟨read ++ String.ofList (inputs.map char), offset', none⟩ := by
    induction inputs generalizing read offset with
    | nil => exact ⟨offset, by simp [pure, Except.pure]⟩
    | cons input inputs ih =>
      obtain ⟨between, first⟩ := spells input List.mem_cons_self length read offset
      obtain ⟨last, others⟩ := ih (fun other member => spells other (List.mem_cons_of_mem _ member))
        (read.push (char input)) between
      refine ⟨last, ?_⟩
      rw [List.flatMap_cons, List.foldlM_append, first, List.map_cons, ← push_append_ofList]
      exact others
  unfold unescape
  generalize String.utf8ByteSize _ = length
  obtain ⟨last, read⟩ := fold length "" 0
  rw [String.toList_ofList, Unescaping.initial, read]
  simp [bind, Except.bind, Unescaping.finish, pure, Except.pure]

/-- **Escaping.** An escaped text is read as the text that it was made from. -/
theorem unescape_escape (text : String) : unescape (escape text) = .ok text := by
  have spells : ∀ c ∈ text.toList, Spells (escapeChar c) (id c) := fun c _ => spells_escapeChar c
  rw [escape, unescape_flatMap spells, List.map_id, String.ofList_toList]

theorem unescape_of_plain {text : String} (plain : '&' ∉ text.toList) :
    unescape text = .ok text := by
  have spells : ∀ c ∈ text.toList, Spells [c] c := fun c member =>
    spells_singleton fun same => plain (same ▸ member)
  simpa using unescape_flatMap spells

/-- No bracket is left in an escaped text. -/
theorem not_mem_escape (text : String) : '<' ∉ (escape text).toList := by
  intro member
  rw [escape, String.toList_ofList, List.mem_flatMap] at member
  obtain ⟨c, -, spelled⟩ := member
  unfold escapeChar at spelled
  split at spelled <;> simp at spelled
  next _ different _ _ _ => exact different spelled.symm

end Worksheet.Markup
