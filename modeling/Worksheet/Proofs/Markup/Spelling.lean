import Mathlib.Data.List.Infix
import Worksheet.Proofs.Folds
import Worksheet.Proofs.Markup.Event
import Worksheet.Proofs.Text.Names

/-!
# Spellings of a text

A text has many spellings in markup. Each of its characters may be written by its name or by its
number, brackets and ampersands have to be, and parts of the text may stand in sections of plain
characters. Comments and instructions may stand anywhere between.

All spellings of a character are read as this character. A section, a comment and an instruction
each go on up to the first place where their end is written, so what stands in them is free but for
this end.
-/

namespace Worksheet.Markup

open Text (takeDigit)

/-! ### Characters -/

/-- The entities that every document knows. -/
inductive Entity where
  | lt | gt | amp | apos | quot
deriving DecidableEq, Repr

namespace Entity

/-- The name of an entity. -/
def name : Entity → List Char
  | lt => ['l', 't']
  | gt => ['g', 't']
  | amp => ['a', 'm', 'p']
  | apos => ['a', 'p', 'o', 's']
  | quot => ['q', 'u', 'o', 't']

/-- The character that an entity stands for. -/
def char : Entity → Char
  | lt => '<'
  | gt => '>'
  | amp => '&'
  | apos => '\x27'
  | quot => '\x22'

end Entity

/-- Digits that are the number of a character. Leading zeros count for nothing, and the character
with the number zero cannot be written in this way. -/
structure Numbers (base : Nat) (digits : List Char) (c : Char) : Prop where
  nonempty : digits ≠ []
  value : Text.number? base digits = some c.toNat
  positive : c.toNat ≠ 0

/-- A character of a text as it is spelled: by itself, by its name, or by its number in base ten or
sixteen. -/
inductive SpelledChar where
  | plain (c : Char) (unmarked : c ≠ '<' ∧ c ≠ '&')
  | named (entity : Entity)
  | decimal (c : Char) (digits : List Char) (numbers : Numbers 10 digits c)
  | hexadecimal (c : Char) (digits : List Char) (numbers : Numbers 16 digits c)

namespace SpelledChar

/-- The character that is spelled. -/
def char : SpelledChar → Char
  | plain c _ => c
  | named entity => entity.char
  | decimal c _ _ => c
  | hexadecimal c _ _ => c

/-- The spelling. -/
def written : SpelledChar → List Char
  | plain c _ => [c]
  | named entity => '&' :: (entity.name ++ [';'])
  | decimal _ digits _ => '&' :: ('#' :: digits ++ [';'])
  | hexadecimal _ digits _ => '&' :: ('#' :: 'x' :: digits ++ [';'])

end SpelledChar

/-! ### Parts of a text -/

/-- A part of what stands between two tags. Sections of plain characters and instructions do not
contain their end, and comments no two hyphens. -/
inductive Piece where
  | characters (spelled : List SpelledChar)
  | cdata (content : List Char) (inside : ¬ "]]>".toList <:+: content)
  | comment (content : List Char) (inside : ¬ "--".toList <:+: content)
  | instruction (content : List Char) (inside : ¬ "?>".toList <:+: '?' :: content)

namespace Piece

/-- What a part adds to a text. -/
def raw : Piece → List Char
  | characters spelled => spelled.map SpelledChar.char
  | cdata content _ => content
  | comment _ _ => []
  | instruction _ _ => []

/-- A part as it is written. -/
def written : Piece → List Char
  | characters spelled => spelled.flatMap SpelledChar.written
  | cdata content _ => '<' :: ("![CDATA[".toList ++ content ++ "]]>".toList)
  | comment content _ => '<' :: ("!--".toList ++ content ++ "-->".toList)
  | instruction content _ => '<' :: ('?' :: content ++ "?>".toList)

end Piece

/-! ### Numbers of characters -/

section Digits

variable {base value number : Nat} {c : Char} {digits : List Char}

/-- A number below the limit with one more digit. -/
def takeWordDigit (base value : Nat) (c : Char) : Except CharacterReferenceError Nat :=
  match Text.digitValue? base c with
  | some digit =>
    let number := base * value + digit
    if number < Nat.pow 2 32 then pure number else throw .overflow
  | none => throw .digit

theorem wordOf_cons (base : Nat) (c : Char) (digits : List Char) :
    wordOf base (c :: digits) = if c = '+' ∨ c = '-' then throw .sign
      else (c :: digits).foldlM (takeWordDigit base) 0 := rfl

theorem takeWordDigit_of_takeDigit (one : takeDigit base value c = some number)
    (small : number < 2 ^ 32) : takeWordDigit base value c = .ok number := by
  obtain ⟨digit, known, rfl⟩ := Option.map_eq_some_iff.mp one
  rw [takeWordDigit, known]
  exact if_pos small

/-- Below the limit nothing is lost: no number on the way is above the one in the end. -/
theorem foldlM_takeWordDigit (positive : 0 < base)
    (read : digits.foldlM (takeDigit base) value = some number) (small : number < 2 ^ 32) :
    digits.foldlM (takeWordDigit base) value = .ok number := by
  induction digits generalizing value with
  | nil => exact congrArg _ (Option.some.inj read)
  | cons c digits ih =>
    rw [List.foldlM_cons] at read
    obtain ⟨further, one, others⟩ := Option.bind_eq_some_iff.mp read
    have between := Text.le_of_foldlM_takeDigit positive others
    exact foldlM_cons_ok (takeWordDigit_of_takeDigit one (by omega)) (ih others)

theorem wordOf_eq_ok (positive : 0 < base) (nonempty : digits ≠ [])
    (read : Text.number? base digits = some number) (small : number < 2 ^ 32) :
    wordOf base digits = .ok number := by
  obtain ⟨c, rest, rfl⟩ := List.exists_cons_of_ne_nil nonempty
  have unsigned : ¬ (c = '+' ∨ c = '-') := by
    rintro (rfl | rfl)
    · exact Text.not_mem_of_digitValue? read (by simp [Text.digitValue?]) List.mem_cons_self
    · exact Text.not_mem_of_digitValue? read (by simp [Text.digitValue?]) List.mem_cons_self
  -- A sign is refused before any digit is read.
  rw [wordOf_cons, if_neg unsigned]
  exact foldlM_takeWordDigit positive read small

end Digits

section References

variable {base : Nat} {c : Char} {digits : List Char}

theorem Numbers.not_mem (numbers : Numbers base digits c) {sign : Char}
    (strange : Text.digitValue? base sign = none) : sign ∉ digits :=
  Text.not_mem_of_digitValue? numbers.value strange

/-- The signs that end an entity are no digits in any base. -/
theorem Numbers.unmarked (numbers : Numbers base digits c) : ∀ d ∈ digits, d ≠ '&' ∧ d ≠ ';' := by
  have ampersand : '&' ∉ digits := numbers.not_mem (by simp [Text.digitValue?])
  have semicolon : ';' ∉ digits := numbers.not_mem (by simp [Text.digitValue?])
  exact fun d member =>
    ⟨fun same => ampersand (same ▸ member), fun same => semicolon (same ▸ member)⟩

theorem Numbers.wordOf_eq_ok (numbers : Numbers base digits c) (positive : 0 < base) :
    wordOf base digits = .ok c.toNat :=
  Markup.wordOf_eq_ok positive numbers.nonempty numbers.value c.val.toNat_lt

/-- A number in base ten is read as the character that has it. -/
theorem numbered_decimal (numbers : Numbers 10 digits c) : numbered digits = .ok c := by
  have valid : c.toNat.isValidChar := c.valid
  unfold numbered
  dsimp only
  split
  next rest =>
    -- The sign of base sixteen is no digit in base ten.
    exact absurd List.mem_cons_self (numbers.not_mem rfl)
  next =>
    rw [numbers.wordOf_eq_ok (by decide)]
    exact (if_neg numbers.positive).trans (dif_pos valid)

theorem numbered_hexadecimal (numbers : Numbers 16 digits c) :
    numbered ('x' :: digits) = .ok c := by
  have valid : c.toNat.isValidChar := c.valid
  change (wordOf 16 digits >>= _) = _
  rw [numbers.wordOf_eq_ok (by decide)]
  exact (if_neg numbers.positive).trans (dif_pos valid)

end References

/-! ### Entities -/

section Entities

variable {name : List Char} {c : Char}

/-- The name of an entity goes on up to its end. -/
theorem foldlM_name (unmarked : ∀ d ∈ name, d ≠ '&' ∧ d ≠ ';') (length start offset : Nat)
    (read : String) (former : List Char) : ∃ offset',
      name.foldlM (Unescaping.step length) ⟨read, offset, some (start, former)⟩ =
        .ok ⟨read, offset', some (start, name.reverse ++ former)⟩ := by
  induction name generalizing offset former with
  | nil => exact ⟨offset, rfl⟩
  | cons d name ih =>
    obtain ⟨here, later⟩ := List.forall_mem_cons.mp unmarked
    have one : Unescaping.step length ⟨read, offset, some (start, former)⟩ d =
        .ok ⟨read, offset + d.utf8Size, some (start, d :: former)⟩ := by
      simp only [Unescaping.step, if_neg here.1, if_neg here.2]
      rfl
    obtain ⟨last, others⟩ := ih later (offset + d.utf8Size) (d :: former)
    refine ⟨last, ?_⟩
    rw [foldlM_cons_ok one others, List.reverse_cons, List.append_assoc, List.singleton_append]

/-- An entity spells the character that it stands for. -/
theorem spells_entity (unmarked : ∀ d ∈ name, d ≠ '&' ∧ d ≠ ';')
    (means : ∀ start stop, entity start stop name = .ok c) :
    Spells ('&' :: (name ++ [';'])) c := by
  intro length read offset
  have begins : Unescaping.step length ⟨read, offset, none⟩ '&' =
      .ok ⟨read, offset + '&'.utf8Size, some (offset, [])⟩ := rfl
  obtain ⟨last, named⟩ := foldlM_name unmarked length offset (offset + '&'.utf8Size) read []
  have ends : Unescaping.step length ⟨read, last, some (offset, name.reverse ++ [])⟩ ';' =
      .ok ⟨read.push c, last + ';'.utf8Size, none⟩ := by
    have whole : (name.reverse ++ []).reverse = name := by simp
    simp only [Unescaping.step, whole, means]
    rfl
  exact ⟨_, foldlM_cons_ok begins (foldlM_append_ok named (foldlM_singleton_ok ends))⟩

/-- **Spellings.** Every spelling of a character is read as this character. -/
theorem SpelledChar.spells (spelled : SpelledChar) : Spells spelled.written spelled.char := by
  cases spelled with
  | plain c unmarked => exact spells_singleton unmarked.2
  | named known =>
    apply spells_entity
    · cases known <;> simp [Entity.name]
    · cases known <;> exact fun _ _ => rfl
  | decimal c digits numbers =>
    apply spells_entity
    · exact List.forall_mem_cons.mpr ⟨by decide, numbers.unmarked⟩
    · intro start stop
      rw [entity, numbered_decimal numbers]
      rfl
  | hexadecimal c digits numbers =>
    apply spells_entity
    · exact List.forall_mem_cons.mpr ⟨by decide, List.forall_mem_cons.mpr
        ⟨by decide, numbers.unmarked⟩⟩
    · intro start stop
      rw [entity, numbered_hexadecimal numbers]
      rfl

/-- No bracket is left in a spelling of a character. -/
theorem SpelledChar.not_mem_written (spelled : SpelledChar) : '<' ∉ spelled.written := by
  have outside {digits : List Char} {base : Nat} {c : Char} (numbers : Numbers base digits c) :
      '<' ∉ digits := numbers.not_mem (by simp [Text.digitValue?])
  cases spelled with
  | plain c unmarked => simpa [written] using unmarked.1.symm
  | named known => cases known <;> decide
  | decimal c digits numbers => simpa [written] using outside numbers
  | hexadecimal c digits numbers => simpa [written] using outside numbers

theorem SpelledChar.not_mem_flatMap_written (spelled : List SpelledChar) :
    '<' ∉ spelled.flatMap written := by
  simp [not_mem_written]

end Entities

/-! ### Constructs up to their end -/

namespace Reader

variable {opened : List (List Char)} {events : List Event} {content read : List Char} {c : Char}

/-- A construct goes on over characters none of which ends it where it stands. -/
theorem foldl_step_goes {mode : List Char → Mode} (former : List Char)
    (goes : ∀ before c after, content = before ++ c :: after →
      step ⟨mode (before.reverse ++ former), opened, events⟩ c =
        ⟨mode (c :: (before.reverse ++ former)), opened, events⟩) :
    content.foldl step ⟨mode former, opened, events⟩ =
      ⟨mode (content.reverse ++ former), opened, events⟩ := by
  induction content generalizing former with
  | nil => rfl
  | cons c content ih =>
    have one := goes [] c content rfl
    have others := ih (c :: former) fun before d after same => by
      simpa using goes (c :: before) d after (congrArg _ same)
    rw [List.foldl_cons]
    exact (congrArg (content.foldl step) one).trans (by simpa using others)

/-- What characters end in, read from the last one, stands before what follows them. -/
theorem infix_of_reverse {before after ending more : List Char}
    (ended : before.reverse = ending.reverse ++ more) :
    ending ++ [c] <:+: before ++ c :: after := by
  have split : before = more.reverse ++ ending := by
    simpa using congrArg List.reverse ended
  exact ⟨more.reverse, after, by simp [split]⟩

theorem step_cdata (goes : ∀ rest, c = '>' → read ≠ ']' :: ']' :: rest) :
    step ⟨.cdata read, opened, events⟩ c = ⟨.cdata (c :: read), opened, events⟩ := by
  unfold step
  dsimp only
  split
  next => exact absurd rfl (goes _ rfl)
  next => rfl

theorem step_comment
    (goes : ∀ a b d rest, c = '>' → read ≠ '-' :: '-' :: a :: b :: d :: rest) :
    step ⟨.comment read, opened, events⟩ c = ⟨.comment (c :: read), opened, events⟩ := by
  unfold step
  dsimp only
  split
  next => exact absurd rfl (goes _ _ _ _ rfl)
  next => rfl

theorem step_instruction (goes : ∀ rest, c = '>' → read ≠ '?' :: rest) :
    step ⟨.instruction read, opened, events⟩ c = ⟨.instruction (c :: read), opened, events⟩ := by
  simp only [step]
  split
  next ends =>
    split
    next => exact absurd rfl (goes [] ends)
    next rest _ => exact absurd rfl (goes rest ends)
    next => rfl
  next => rfl

/-- A section of plain characters, after its first bracket. -/
theorem foldl_cdata (inside : ¬ "]]>".toList <:+: content) :
    ("![CDATA[".toList ++ content ++ "]]>".toList).foldl step ⟨.opening, opened, events⟩ =
      ⟨.text "", opened, .cdata (String.ofList content) :: events⟩ := by
  have begins : "![CDATA[".toList.foldl step ⟨.opening, opened, events⟩ =
      ⟨.cdata "[ATADC[!".toList, opened, events⟩ := rfl
  have goes : content.foldl step ⟨.cdata "[ATADC[!".toList, opened, events⟩ =
      ⟨.cdata (content.reverse ++ "[ATADC[!".toList), opened, events⟩ := by
    apply foldl_step_goes
    rintro before c after rfl
    refine step_cdata ?_
    rintro rest rfl ended
    -- Both brackets stand in the content, since what is before it ends in another one.
    match reversed : before.reverse with
    | [] | [_] => simp [reversed] at ended
    | second :: first :: more =>
      simp only [reversed, List.cons_append, List.cons_eq_cons] at ended
      obtain ⟨rfl, rfl, -⟩ := ended
      have standing : [']', ']'] ++ ['>'] <:+: before ++ '>' :: after := infix_of_reverse reversed
      exact inside standing
  have ends (read : List Char) : "]]>".toList.foldl step ⟨.cdata read, opened, events⟩ =
      endCdata ⟨.cdata (']' :: ']' :: read), opened, events⟩ (']' :: ']' :: read) := rfl
  rw [List.foldl_append, List.foldl_append, begins, goes, ends]
  simp [endCdata, emit]

/-- A comment, after its first bracket. -/
theorem foldl_comment (inside : ¬ "--".toList <:+: content) :
    ("!--".toList ++ content ++ "-->".toList).foldl step ⟨.opening, opened, events⟩ =
      ⟨.text "", opened, events⟩ := by
  have begins : "!--".toList.foldl step ⟨.opening, opened, events⟩ =
      ⟨.comment "--!".toList, opened, events⟩ := rfl
  have goes : content.foldl step ⟨.comment "--!".toList, opened, events⟩ =
      ⟨.comment (content.reverse ++ "--!".toList), opened, events⟩ := by
    apply foldl_step_goes
    rintro before c after rfl
    refine step_comment ?_
    rintro a b d rest rfl ended
    -- The dashes at the beginning are not counted as those at the end.
    match reversed : before.reverse with
    | [] | [_] => simp [reversed] at ended
    | second :: first :: more =>
      simp only [reversed, List.cons_append, List.cons_eq_cons] at ended
      obtain ⟨rfl, rfl, -⟩ := ended
      have standing : ['-', '-'] ++ ['>'] <:+: before ++ '>' :: after := infix_of_reverse reversed
      exact inside ((List.prefix_append ['-', '-'] ['>']).isInfix.trans standing)
  have ends (read : List Char) : "-->".toList.foldl step
      ⟨.comment (read ++ "--!".toList), opened, events⟩ =
        endComment ⟨.comment ('-' :: '-' :: (read ++ "--!".toList)), opened, events⟩
          ('-' :: '-' :: (read ++ "--!".toList)) := by
    obtain ⟨a, b, d, rest, shape⟩ : ∃ a b d rest, read ++ "--!".toList = a :: b :: d :: rest := by
      match read with
      | [] | [_] | [_, _] | _ :: _ :: _ :: _ => exact ⟨_, _, _, _, rfl⟩
    rw [shape]
    rfl
  rw [List.foldl_append, List.foldl_append, begins, goes, ends]
  simp [endComment, skip]

/-- An instruction, after its first bracket. -/
theorem foldl_instruction (inside : ¬ "?>".toList <:+: '?' :: content) :
    ('?' :: content ++ "?>".toList).foldl step ⟨.opening, opened, events⟩ =
      ⟨.text "", opened, events⟩ := by
  have goes : content.foldl step ⟨.instruction ['?'], opened, events⟩ =
      ⟨.instruction (content.reverse ++ ['?']), opened, events⟩ := by
    apply foldl_step_goes
    rintro before c after rfl
    refine step_instruction ?_
    rintro rest rfl ended
    have reversed : ('?' :: before).reverse = '?' :: rest := by simpa using ended
    have standing : ['?'] ++ ['>'] <:+: '?' :: before ++ '>' :: after := infix_of_reverse reversed
    exact inside standing
  have ends (read : List Char) : "?>".toList.foldl step
      ⟨.instruction (read ++ ['?']), opened, events⟩ = ⟨.text "", opened, events⟩ := by
    cases read <;> rfl
  have begins : step ⟨.opening, opened, events⟩ '?' = ⟨.instruction ['?'], opened, events⟩ := rfl
  rw [List.cons_append, List.foldl_cons, begins, List.foldl_append, goes, ends]

end Reader

end Worksheet.Markup
