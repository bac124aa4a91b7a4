/-!
# Faults of markup

The faults that end the reading of a document, of the attributes of a tag or of an escaped text,
each with its message. Ranges and positions count bytes. A fault of markup wraps more special ones;
`causes` lists their messages from the outermost to the innermost.
-/

namespace Worksheet

/-- A construct without its end, or a declaration of no known kind. -/
inductive MarkupSyntaxError where
  | tag | instruction | declaration | cdata | comment | doctype
deriving DecidableEq, Repr

/-- The message of a construct that ends too early. -/
def MarkupSyntaxError.message : MarkupSyntaxError → String
  | tag => "tag not closed: `>` not found before end of input"
  | instruction => "processing instruction or xml declaration not closed: `?>` not found before " ++
      "end of input"
  | declaration => "unknown or missed symbol in markup"
  | cdata => "CDATA not closed: `]]>` not found before end of input"
  | comment => "comment not closed: `-->` not found before end of input"
  | doctype => "DOCTYPE not closed: `>` not found before end of input"

/-- A construct that is complete and does not fit: a document type without a name, or the end of an
element where another one is the innermost, or none is open. -/
inductive MarkupFormError where
  | missingDoctypeName
  | mismatchedEnd (expected found : String)
  | unmatchedEnd (found : String)
deriving DecidableEq, Repr

/-- The message of a construct that does not fit. -/
def MarkupFormError.message : MarkupFormError → String
  | missingDoctypeName => "`<!DOCTYPE>` declaration does not contain a name of a document type"
  | mismatchedEnd expected found => "expected `</" ++ expected ++ ">`, but `</" ++ found ++
      ">` was found"
  | unmatchedEnd found => "close tag `</" ++ found ++ ">` does not match any open tag"

/-- A reference to a character that names none. Its number has a sign, no digits, or a character
that is no digit, or it is not below `2 ^ 32`, zero, or no code point. -/
inductive CharacterReferenceError where
  | sign
  | empty
  | digit
  | overflow
  | zero
  | codePoint (number : Nat)
deriving DecidableEq, Repr

namespace CharacterReferenceError

/-- The message of a reference that names no character. -/
def message : CharacterReferenceError → String
  | sign => "unexpected number sign"
  | empty => "cannot parse integer from empty string"
  | digit => "invalid digit found in string"
  | overflow => "number too large to fit in target type"
  | zero => "0x0 character is not permitted in XML"
  | codePoint number => "`" ++ Nat.repr number ++ "` is not a valid codepoint"

/-- What stands in the reference cannot be read as a number, or not as one of 32 bits. -/
def isNumeric : CharacterReferenceError → Bool
  | empty | digit | overflow => true
  | sign | zero | codePoint _ => false

end CharacterReferenceError

/-- An escape that stands for nothing. Without a semicolon its range is from the ampersand to the
end of the text, and for a name that no character has it is that of the name. -/
inductive EscapeError where
  | unterminated (start stop : Nat)
  | unrecognized (start stop : Nat) (name : String)
  | reference (cause : CharacterReferenceError)
deriving DecidableEq, Repr

/-- A range of bytes as it is shown. -/
def EscapeError.range (start stop : Nat) : String :=
  Nat.repr start ++ ".." ++ Nat.repr stop

/-- The message of an escape that stands for nothing. -/
def EscapeError.message : EscapeError → String
  | unterminated start stop => "Error while escaping character at range " ++ range start stop ++
      ": Cannot find ';' after '&'"
  | unrecognized start stop name => "at " ++ range start stop ++ ": unrecognized entity `" ++
      name ++ "`"
  | reference cause => "invalid character reference: " ++ cause.message

/-- A fault that ends the reading of a document. -/
inductive MarkupError where
  | malformed (fault : MarkupSyntaxError)
  | illFormed (fault : MarkupFormError)
  | escape (fault : EscapeError)
deriving DecidableEq, Repr

namespace MarkupError

/-- The message of a fault of markup. -/
def message : MarkupError → String
  | malformed fault => "syntax error: " ++ fault.message
  | illFormed fault => "ill-formed document: " ++ fault.message
  | escape fault => fault.message

/-- The messages of the faults that a fault of markup wraps, the outermost first. -/
def causes : MarkupError → List String
  | malformed fault => [fault.message]
  | illFormed fault => [fault.message]
  | escape (.reference cause) =>
    [(EscapeError.reference cause).message, cause.message] ++
      if cause.isNumeric then [cause.message] else []
  | escape fault => [fault.message]

end MarkupError

/-- A fault of the attributes of a tag, with its position in the content of the tag. -/
inductive AttributeError where
  | expectedEquals (position : Nat)
  | expectedValue (position : Nat)
  | unquotedValue (position : Nat)
  | expectedQuote (position : Nat) (quote : Char)
deriving DecidableEq, Repr

/-- The message of a fault of attributes. -/
def AttributeError.message : AttributeError → String
  | expectedEquals position => "position " ++ Nat.repr position ++
      ": attribute key must be directly followed by `=` or space"
  | expectedValue position => "position " ++ Nat.repr position ++
      ": `=` must be followed by an attribute value"
  | unquotedValue position => "position " ++ Nat.repr position ++
      ": attribute value must be enclosed in `\"` or `'`"
  | expectedQuote position quote => "position " ++ Nat.repr position ++
      ": missing closing quote `" ++ quote.toString ++ "` in attribute value"

end Worksheet
