import Worksheet.Text.Digits

/-!
# Strings of a settings file

A string stands between quotes on one line, or between threefold quotes on several. Between double
quotes a backslash starts an escape, or leaves out the line end after it with all blanks that
follow; between single quotes all characters stand for themselves. Right before the end of a string
on several lines there may be one or two more quotes, which belong to it.

A string is read character by character. Where only the character behind a string shows that it has
ended, that character is left to whatever comes next.
-/

namespace Worksheet.Settings

/-- The blanks within a line. -/
def isBlank (c : Char) : Bool :=
  c == ' ' || c == '\t'

/-- A character that strings and comments may contain as it is: the tab, and all but controls. -/
def isPlain (c : Char) : Bool :=
  c == '\t' || (' ' ≤ c && c != '\x7f')

/-- Where in a string a reader is. After two quotes the string is empty or a third one follows; a
line end right behind the third does not count. Among the characters of several lines there may be
some quotes in a row. A code point has so many digits to come, and the blanks after a backslash may
have had a line end among them. -/
inductive StringPhase where
  | opened
  | openedTwice
  | openedThrice
  | inside
  | quotes (count : Nat)
  | escape
  | codePoint (missing value : Nat)
  | gap (broken : Bool)
deriving DecidableEq, Repr

/-- The state of reading a string between some quotes, on one line or on several, with the
characters read, the latest first. -/
structure StringReader where
  quote : Char
  multiline : Bool
  phase : StringPhase
  read : List Char
deriving DecidableEq, Repr

/-- What follows from reading one more character. If it ends the string, it is a part of it or left
unread. -/
inductive StringStep where
  | more (reader : StringReader)
  | done (text : String) (unread : Bool)
  | failed
deriving DecidableEq, Repr

namespace StringReader

/-- The state after the quote that starts a string. -/
def start (quote : Char) : StringReader := ⟨quote, false, .opened, []⟩

/-- Adds a character and goes on. -/
def push (reader : StringReader) (c : Char) : StringReader :=
  { reader with phase := .inside, read := c :: reader.read }

/-- Adds some quotes. -/
def pushQuotes (reader : StringReader) (count : Nat) : StringReader :=
  { reader with read := List.replicate count reader.quote ++ reader.read }

/-- The string that has been read. -/
def text (reader : StringReader) : String :=
  String.ofList reader.read.reverse

/-- Reads one of the characters of a string. -/
def stepInside (reader : StringReader) (c : Char) : StringStep :=
  if c = reader.quote then
    if reader.multiline then .more { reader with phase := .quotes 1 } else .done reader.text false
  else if c = '\\' ∧ reader.quote = '\x22' then .more { reader with phase := .escape }
  else if c = '\n' then if reader.multiline then .more (reader.push c) else .failed
  else if isPlain c then .more (reader.push c)
  else .failed

/-- The character that a letter after a backslash stands for. -/
def escaped? : Char → Option Char
  | 'b' => some '\x08'
  | 't' => some '\t'
  | 'n' => some '\n'
  | 'f' => some '\x0c'
  | 'r' => some '\r'
  | '\\' => some '\\'
  | '\x22' => some '\x22'
  | _ => none

/-- Reads the character after a backslash. -/
def stepEscape (reader : StringReader) (c : Char) : StringStep :=
  match escaped? c with
  | some meant => .more (reader.push meant)
  | none =>
    if c = 'u' then .more { reader with phase := .codePoint 4 0 }
    else if c = 'U' then .more { reader with phase := .codePoint 8 0 }
    else if reader.multiline && (isBlank c || c == '\n') then
      .more { reader with phase := .gap (c == '\n') }
    else .failed

/-- Reads one digit of a code point. -/
def stepCodePoint (reader : StringReader) (missing value : Nat) (c : Char) : StringStep :=
  match Text.digitValue? 16 c with
  | none => .failed
  | some digit =>
    let value := 16 * value + digit
    if 1 < missing then .more { reader with phase := .codePoint (missing - 1) value }
    else if value.isValidChar then .more (reader.push (Char.ofNat value))
    else .failed

/-- Reads one character. -/
def step (reader : StringReader) (c : Char) : StringStep :=
  match reader.phase with
  | .opened =>
    if c = reader.quote then .more { reader with phase := .openedTwice } else reader.stepInside c
  | .openedTwice =>
    if c = reader.quote then .more { reader with phase := .openedThrice, multiline := true }
    else .done "" true
  | .openedThrice =>
    if c = '\n' then .more { reader with phase := .inside } else reader.stepInside c
  | .inside => reader.stepInside c
  | .quotes count =>
    if c = reader.quote then
      if count = 4 then .done (reader.pushQuotes 2).text false
      else .more { reader with phase := .quotes (count + 1) }
    else if 3 ≤ count then .done (reader.pushQuotes (count - 3)).text true
    else (reader.pushQuotes count).stepInside c
  | .escape => reader.stepEscape c
  | .codePoint missing value => reader.stepCodePoint missing value c
  | .gap broken =>
    if c = '\n' then .more { reader with phase := .gap true }
    else if isBlank c then .more reader
    else if broken then reader.stepInside c
    else .failed

/-- The string that ends where the file ends, if it does. -/
def finish? (reader : StringReader) : Option String :=
  match reader.phase with
  | .openedTwice => some ""
  | .quotes count => if 3 ≤ count then some (reader.pushQuotes (count - 3)).text else none
  | _ => none

end StringReader

end Worksheet.Settings
