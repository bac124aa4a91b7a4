import Worksheet.Markup.Error
import Worksheet.Text.Digits

/-!
# Escaped text

In markup the five characters that have a meaning of their own are written by name, between an
ampersand and a semicolon. A character may also be written by its number, in base ten or, after an
`x`, in base sixteen.
-/

namespace Worksheet.Markup

/-- A character as it is written in a text. -/
def escapeChar (c : Char) : List Char :=
  match c with
  | '&' => "&amp;".toList
  | '<' => "&lt;".toList
  | '>' => "&gt;".toList
  | '\x27' => "&apos;".toList
  | '\x22' => "&quot;".toList
  | c => [c]

/-- A text with the five characters written by name. -/
def escape (text : String) : String :=
  String.ofList (text.toList.flatMap escapeChar)

/-- The character that a name stands for. -/
def named? (name : List Char) : Option Char :=
  if name = "lt".toList then some '<'
  else if name = "gt".toList then some '>'
  else if name = "amp".toList then some '&'
  else if name = "apos".toList then some '\x27'
  else if name = "quot".toList then some '\x22'
  else none

/-- Reads the digits of a number below `2 ^ 32`, from the left up to the first fault. -/
def wordOf (base : Nat) (digits : List Char) : Except CharacterReferenceError Nat :=
  match digits with
  | [] => throw .empty
  | c :: _ =>
    if c = '+' ∨ c = '-' then throw .sign
    else
      digits.foldlM (fun number c =>
        match Text.digitValue? base c with
        | some value =>
          let number := base * number + value
          if number < Nat.pow 2 32 then pure number else throw .overflow
        | none => throw .digit) 0

/-- The character with the number that is written after the number sign. -/
def numbered (number : List Char) : Except CharacterReferenceError Char := do
  let code ←
    match number with
    | 'x' :: digits => wordOf 16 digits
    | digits => wordOf 10 digits
  if code = 0 then throw .zero
  -- Surrogates and numbers past the last plane are no characters.
  if valid : code.isValidChar then pure (Char.ofNatAux code valid) else throw (.codePoint code)

/-- The character that is written between an ampersand and a semicolon; the range is that of what
stands between them. -/
def entity (start stop : Nat) (name : List Char) : Except EscapeError Char :=
  match name with
  | '#' :: number =>
    match numbered number with
    | .ok c => pure c
    | .error cause => throw (.reference cause)
  | name =>
    match named? name with
    | some c => pure c
    | none => throw (.unrecognized start stop (String.ofList name))

/-- The state of reading an escaped text: the characters and the number of bytes read so far, and
where an ampersand stood and what followed it, the latest first. -/
structure Unescaping where
  read : String
  offset : Nat
  entity? : Option (Nat × List Char)
deriving DecidableEq, Repr

namespace Unescaping

/-- Nothing has been read. -/
def initial : Unescaping := ⟨"", 0, none⟩

/-- Reads one character of a text of so many bytes. -/
def step (length : Nat) (state : Unescaping) (c : Char) : Except EscapeError Unescaping :=
  let offset := state.offset + c.utf8Size
  match state.entity? with
  | none =>
    if c = '&' then pure ⟨state.read, offset, some (state.offset, [])⟩
    else pure ⟨state.read.push c, offset, none⟩
  | some (start, name) =>
    -- An entity may not begin within another one.
    if c = '&' then throw (.unterminated start length)
    else if c = ';' then do
      let character ← entity (start + 1) state.offset name.reverse
      pure ⟨state.read.push character, offset, none⟩
    else pure ⟨state.read, offset, some (start, c :: name)⟩

/-- Ends the reading of a text of so many bytes. -/
def finish (length : Nat) (state : Unescaping) : Except EscapeError String :=
  match state.entity? with
  | none => pure state.read
  | some (start, _) => throw (.unterminated start length)

end Unescaping

/-- Reads an escaped text. -/
def unescape (text : String) : Except EscapeError String := do
  let state ← text.toList.foldlM (Unescaping.step text.utf8ByteSize) .initial
  state.finish text.utf8ByteSize

end Worksheet.Markup
