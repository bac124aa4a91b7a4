import Worksheet.Settings.Basic
import Worksheet.Settings.Numeral
import Worksheet.Settings.StringLiteral

/-!
# Files of settings

A file of settings has one statement on a line, `key = value`, and comments behind `#`. A key is a
run of letters, digits, hyphens and underscores, or a string on one line; a value is a number or a
string. Lines end with a line feed, before which a carriage return may stand.

There are three keys, and each may be set once. A file is read character by character, and the first
fault makes all of it void.
-/

namespace Worksheet.Settings

/-- The value of a statement. -/
inductive Value where
  | natural (value : Nat)
  | text (value : String)
deriving DecidableEq, Repr

/-- Where on a line a reader is. The characters of a key without quotes and of a number have the
latest first. -/
inductive Position where
  | lineStart
  | bareKey (read : List Char)
  | quotedKey (reader : StringReader)
  | keyEnd (key : String)
  | valueStart (key : String)
  | number (key : String) (read : List Char)
  | string (key : String) (reader : StringReader)
  | lineEnd
  | comment
  | failed
deriving DecidableEq, Repr

/-- The state of reading a file of settings. -/
structure Reader where
  position : Position
  /-- The character before was a carriage return, so the line has to end. -/
  carriage : Bool
  settings : Settings
deriving DecidableEq, Repr

/-- A character that a key without quotes may have. -/
def isKeyChar (c : Char) : Bool :=
  c.isAlphanum || c == '-' || c == '_'

/-- Sets the value of a key that is not set yet. -/
def set? (settings : Settings) (key : String) (value : Value) : Option Settings :=
  match value with
  | .natural value =>
    if key = "rows" ∧ settings.rows? = none then some { settings with rows? := some value }
    else if key = "columns" ∧ settings.columns? = none then
      some { settings with columns? := some value }
    else none
  | .text value =>
    if key = "log_level" ∧ settings.logLevel? = none then
      some { settings with logLevel? := some value }
    else none

namespace Reader

/-- Nothing has been read. -/
def initial : Reader := ⟨.lineStart, false, Settings.unset⟩

/-- Goes on at another position. -/
def go (reader : Reader) (position : Position) : Reader := { reader with position }

/-- Goes on after a statement, unless it sets what cannot be set. -/
def assign (reader : Reader) (key : String) (value? : Option Value) : Reader :=
  match value?.bind (set? reader.settings key) with
  | some settings => { reader with position := .lineEnd, settings }
  | none => reader.go .failed

/-- Reads a character after a statement. -/
def stepLineEnd (reader : Reader) (c : Char) : Reader :=
  match reader.position with
  | .failed => reader
  | _ =>
    if c = '\n' then reader.go .lineStart
    else if c = '#' then reader.go .comment
    else if isBlank c then reader
    else reader.go .failed

/-- Reads a character before the equals sign. -/
def stepKeyEnd (reader : Reader) (key : String) (c : Char) : Reader :=
  if c = '=' then reader.go (.valueStart key)
  else if isBlank c then reader.go (.keyEnd key)
  else reader.go .failed

/-- Reads a character of a number, or the one behind it. -/
def stepNumber (reader : Reader) (key : String) (read : List Char) (c : Char) : Reader :=
  if c.isAlphanum || c == '_' then reader.go (.number key (c :: read))
  else (reader.assign key ((natural? read.reverse).map .natural)).stepLineEnd c

/-- Reads one character, line ends apart from their carriage returns. -/
def stepChar (reader : Reader) (c : Char) : Reader :=
  match reader.position with
  | .lineStart =>
    if c = '\x22' ∨ c = '\x27' then reader.go (.quotedKey (.start c))
    else if isKeyChar c then reader.go (.bareKey [c])
    else reader.stepLineEnd c
  | .bareKey read =>
    if isKeyChar c then reader.go (.bareKey (c :: read))
    else reader.stepKeyEnd (String.ofList read.reverse) c
  | .quotedKey string =>
    match string.step c with
    | .more string => if string.multiline then reader.go .failed else reader.go (.quotedKey string)
    | .done key unread => if unread then reader.stepKeyEnd key c else reader.go (.keyEnd key)
    | .failed => reader.go .failed
  | .keyEnd key => reader.stepKeyEnd key c
  | .valueStart key =>
    if c = '\x22' ∨ c = '\x27' then reader.go (.string key (.start c))
    else if c.isDigit || c == '+' || c == '-' then reader.go (.number key [c])
    else if isBlank c then reader
    else reader.go .failed
  | .number key read => reader.stepNumber key read c
  | .string key string =>
    match string.step c with
    | .more string => reader.go (.string key string)
    | .done text unread =>
      let reader := reader.assign key (some (.text text))
      if unread then reader.stepLineEnd c else reader
    | .failed => reader.go .failed
  | .lineEnd => reader.stepLineEnd c
  | .comment =>
    if c = '\n' then reader.go .lineStart else if isPlain c then reader else reader.go .failed
  | .failed => reader

/-- Reads one character. -/
def step (reader : Reader) (c : Char) : Reader :=
  if reader.carriage ∧ c ≠ '\n' then { reader with position := .failed }
  else if c = '\r' then { reader with carriage := true }
  else { reader with carriage := false }.stepChar c

/-- What has been set when the file ends. -/
def finish? (reader : Reader) : Option Settings :=
  let reader :=
    match reader.position with
    | .number key read => reader.assign key ((natural? read.reverse).map .natural)
    | .string key string => reader.assign key (string.finish?.map .text)
    | _ => reader
  match reader.position with
  | .lineStart | .lineEnd | .comment => if reader.carriage then none else some reader.settings
  | _ => none

end Reader

/-- Reads settings, perhaps behind a byte order mark. -/
def ofText? (text : String) : Option Settings :=
  let chars :=
    match text.toList with
    | '\ufeff' :: chars => chars
    | chars => chars
  (chars.foldl Reader.step .initial).finish?

end Worksheet.Settings
