import Worksheet.Markup.Tag

/-!
# Events of a document

A document is a sequence of tags, texts and sections of plain characters; comments, instructions and
document types are passed over. It is read character by character. The end of an element has to name
the innermost element that is open, but elements that are still open at the end are no fault.
-/

namespace Worksheet.Markup

/-- What a document consists of. A text is still escaped. -/
inductive Event where
  | start (tag : Tag)
  | empty (tag : Tag)
  | stop (name : List Char)
  | text (text : String)
  | cdata (text : String)
deriving DecidableEq, Repr

/-- The construct that a reader is in, with its characters, the latest first. After a bracket or an
exclamation mark it is not known yet. In a tag there may be an open quote, and in a document type
there may be inner brackets. -/
inductive Mode where
  | text (read : String)
  | opening
  | tag (read : List Char) (quote? : Option Char)
  | closing (read : List Char) (quote? : Option Char)
  | instruction (read : List Char)
  | declaration
  | cdata (read : List Char)
  | comment (read : List Char)
  | doctype (read : List Char) (depth : Nat)
  | failed (fault : MarkupError)
deriving DecidableEq, Repr

/-- The state of reading a document, with the innermost of the open elements and the latest of the
events first. -/
structure Reader where
  mode : Mode
  opened : List (List Char)
  events : List Event
deriving DecidableEq, Repr

namespace Reader

/-- Nothing has been read. -/
def initial : Reader := ⟨.text "", [], []⟩

/-- Goes on after an event. -/
def emit (reader : Reader) (event : Event) : Reader :=
  { reader with mode := .text "", events := event :: reader.events }

/-- Goes on after a construct that is passed over. -/
def skip (reader : Reader) : Reader :=
  { reader with mode := .text "" }

/-- Stops at a fault. -/
def fail (reader : Reader) (fault : MarkupError) : Reader :=
  { reader with mode := .failed fault }

/-- Goes on after a text, which is an event unless it is empty. -/
def flush (reader : Reader) (text : String) (mode : Mode) : Reader :=
  if text = "" then { reader with mode }
  else { reader with mode, events := .text text :: reader.events }

/-- Ends a tag. A slash before its end stands for an element without content. -/
def endTag (reader : Reader) (read : List Char) : Reader :=
  match read with
  | '/' :: read => reader.emit (.empty ⟨read.reverse⟩)
  | read =>
    let tag : Tag := ⟨read.reverse⟩
    { reader with opened := tag.name :: reader.opened }.emit (.start tag)

/-- Ends the end of an element. Blanks after the name do not count, unless there is nothing else. -/
def endClosing (reader : Reader) (read : List Char) : Reader :=
  let trimmed := (read.dropWhile isBlank).reverse
  let name := if trimmed = [] then read.reverse else trimmed
  match reader.opened with
  | [] => reader.fail (.illFormed (.unmatchedEnd (String.ofList name)))
  | expected :: opened =>
    if name = expected then { reader with opened }.emit (.stop name)
    else
      reader.fail
        (.illFormed (.mismatchedEnd (String.ofList expected) (String.ofList name)))

/-- Ends a section of plain characters, if it was one. -/
def endCdata (reader : Reader) (read : List Char) : Reader :=
  let content := read.reverse
  let opening := "![CDATA[".toList
  if opening.isPrefixOf content then
    reader.emit (.cdata (String.ofList ((content.drop opening.length).dropLast.dropLast)))
  else
    reader.fail (.malformed .cdata)

/-- Ends a comment, if it was one. -/
def endComment (reader : Reader) (read : List Char) : Reader :=
  if "!--".toList.isPrefixOf read.reverse then reader.skip else reader.fail (.malformed .comment)

/-- Ends a document type, if it was one and has a name. -/
def endDoctype (reader : Reader) (read : List Char) : Reader :=
  let content := read.reverse
  let opening := "!DOCTYPE".toList
  if opening.isPrefixOf (content.map Char.toUpper) then
    if (content.drop opening.length).all isBlank then
      reader.fail (.illFormed .missingDoctypeName)
    else
      reader.skip
  else
    reader.fail (.malformed .doctype)

/-- The quote that is open after a character of a tag or of the end of an element. A quote opens or
closes a quoted part, and the first closing bracket outside of quotes ends the construct. -/
def quoteAfter? (quote? : Option Char) (c : Char) : Option (Option Char) :=
  match quote? with
  | some quote => some (if c = quote then none else some quote)
  | none =>
    if c = '>' then none
    else if c = '\x22' ∨ c = '\x27' then some (some c)
    else some none

/-- Reads one character. -/
def step (reader : Reader) (c : Char) : Reader :=
  let go (mode : Mode) : Reader := { reader with mode }
  let stepTag (read : List Char) (quote? : Option Char) : Reader :=
    match quoteAfter? quote? c with
    | some quote? => go (.tag (c :: read) quote?)
    | none => reader.endTag read
  match reader.mode with
  | .text read => if c = '<' then reader.flush read .opening else go (.text (read.push c))
  | .opening =>
    if c = '/' then go (.closing [] none)
    else if c = '?' then go (.instruction [c])
    else if c = '!' then go .declaration
    else stepTag [] none
  | .tag read quote? => stepTag read quote?
  | .closing read quote? =>
    match quoteAfter? quote? c with
    | some quote? => go (.closing (c :: read) quote?)
    | none => reader.endClosing read
  | .instruction read =>
    if c = '>' then
      match read with
      | ['?'] => reader.fail (.malformed .instruction)
      | '?' :: _ => reader.skip
      | read => go (.instruction (c :: read))
    else go (.instruction (c :: read))
  | .declaration =>
    -- One character tells the three kinds of declarations apart; the rest is checked at the end.
    if c = '[' then go (.cdata [c, '!'])
    else if c = '-' then go (.comment [c, '!'])
    else if c = 'D' ∨ c = 'd' then go (.doctype [c, '!'] 0)
    else reader.fail (.malformed .declaration)
  | .cdata read =>
    match c, read with
    | '>', ']' :: ']' :: _ => reader.endCdata read
    | c, read => go (.cdata (c :: read))
  | .comment read =>
    match c, read with
    | '>', '-' :: '-' :: _ :: _ :: _ :: _ => reader.endComment read
    | c, read => go (.comment (c :: read))
  | .doctype read depth =>
    if c = '<' then go (.doctype (c :: read) (depth + 1))
    else if c = '>' then
      match depth with
      -- Only the bracket that closes the outermost one ends the document type.
      | 0 => reader.endDoctype read
      | depth + 1 => go (.doctype (c :: read) depth)
    else go (.doctype (c :: read) depth)
  | .failed _ => reader

/-- Ends a document: its events in order, and its fault. -/
def finish (reader : Reader) : List Event × Option MarkupError :=
  let stopped (fault : MarkupSyntaxError) : List Event × Option MarkupError :=
    (reader.events.reverse, some (.malformed fault))
  match reader.mode with
  | .text read => ((reader.flush read reader.mode).events.reverse, none)
  | .opening => stopped .tag
  | .tag _ _ => stopped .tag
  | .closing _ _ => stopped .tag
  | .instruction _ => stopped .instruction
  | .declaration => stopped .declaration
  | .cdata _ => stopped .cdata
  | .comment _ => stopped .comment
  | .doctype _ _ => stopped .doctype
  | .failed fault => (reader.events.reverse, some fault)

end Reader

/-- The events of a document up to its first fault, and that fault. A mark of the byte order at the
start is passed over. -/
def events (document : String) : List Event × Option MarkupError :=
  let characters :=
    match document.toList with
    | '\uFEFF' :: rest => rest
    | characters => characters
  (characters.foldl Reader.step .initial).finish

end Worksheet.Markup
