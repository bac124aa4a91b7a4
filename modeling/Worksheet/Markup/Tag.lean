import Worksheet.Markup.Error

/-!
# Tags and their attributes

The content of a tag is a name and, after blanks, attributes: a key, an equals sign and a value
between quotes of one kind. Keys may repeat, and a value may be followed by the next key at once.
-/

namespace Worksheet.Markup

/-- The blanks of markup: space, tab and the line ends. -/
def isBlank (c : Char) : Bool :=
  c == ' ' || c == '\t' || c == '\r' || c == '\n'

/-- The part of a name after its first colon, or all of it if it has none. -/
def localName (name : List Char) : List Char :=
  match name.dropWhile (· != ':') with
  | [] => name
  | _ :: rest => rest

/-- What stands between the angle brackets of a tag, with the name first. -/
structure Tag where
  content : List Char
deriving DecidableEq, Repr

/-- An attribute of a tag. What stands between its quotes is still escaped. -/
structure Attribute where
  key : String
  value : String
deriving DecidableEq, Repr

/-- Where in the attributes of a tag a reader is: between two of them, in a key, behind it, behind
the equals sign, or in a value. -/
inductive AttributePhase where
  | between
  | key (read : String)
  | named (key : String)
  | equated (key : String)
  | value (key : String) (quote : Char) (read : String)
deriving DecidableEq, Repr

/-- The state of reading the attributes of a tag, with the position in bytes and the latest
attribute first. -/
structure AttributeScan where
  position : Nat
  phase : AttributePhase
  done : List Attribute
  fault? : Option AttributeError
deriving DecidableEq, Repr

namespace AttributeScan

/-- Reads one character, unless a fault has ended the reading. -/
def step (scan : AttributeScan) (c : Char) : AttributeScan :=
  let next (phase : AttributePhase) : AttributeScan :=
    { scan with position := scan.position + c.utf8Size, phase }
  match scan.fault? with
  | some _ => scan
  | none =>
    match scan.phase with
    | .between => if isBlank c then next .between else next (.key c.toString)
    | .key read =>
      if c = '=' then next (.equated read)
      else if isBlank c then next (.named read)
      else next (.key (read.push c))
    | .named key =>
      if c = '=' then next (.equated key)
      else if isBlank c then next (.named key)
      else { scan with fault? := some (.expectedEquals scan.position) }
    | .equated key =>
      if c = '\x22' ∨ c = '\x27' then next (.value key c "")
      else if isBlank c then next (.equated key)
      else { scan with fault? := some (.unquotedValue scan.position) }
    | .value key quote read =>
      if c = quote then { next .between with done := ⟨key, read⟩ :: scan.done }
      else next (.value key quote (read.push c))

/-- The fault that the end of the tag brings, if none came before. -/
def finalFault? (scan : AttributeScan) : Option AttributeError :=
  match scan.fault? with
  | some fault => some fault
  | none =>
    match scan.phase with
    | .between => none
    | .key _ => some (.expectedEquals scan.position)
    | .named _ => some (.expectedEquals scan.position)
    | .equated _ => some (.expectedValue scan.position)
    | .value _ quote _ => some (.expectedQuote scan.position quote)

end AttributeScan

namespace Tag

/-- The name of a tag, up to the first blank. -/
def name (tag : Tag) : List Char :=
  tag.content.takeWhile fun c => !isBlank c

/-- The attributes of a tag in order, up to the first fault, and that fault. -/
def attributes (tag : Tag) : List Attribute × Option AttributeError :=
  -- Positions are counted from the start of the tag, its name included.
  let start := tag.name.foldl (fun size c => size + c.utf8Size) 0
  let rest := tag.content.dropWhile fun c => !isBlank c
  let scan := rest.foldl AttributeScan.step ⟨start, .between, [], none⟩
  (scan.done.reverse, scan.finalFault?)

end Tag

end Worksheet.Markup
