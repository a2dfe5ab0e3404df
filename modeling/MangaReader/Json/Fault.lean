/-!
# What can be wrong with a JSON text

* `Cause` : why a text is refused, as a text (`syntax` causes) or as a value of the wanted form.
* `Fault` : a cause and the byte offset it is reported at.
* `Position` : line and column of a byte offset.
* `Error` : what a reader reports; a value that was already read has no position.
-/

namespace MangaReader.Json

/-- What stands where another value was expected. -/
inductive Found where
  | null
  | bool (b : Bool)
  | integer (n : Int)
  | float (shown : String)
  | string (quoted : String)
  | array
  | object
  deriving DecidableEq, Repr

namespace Found

def describe : Found → String
  | .null => "null"
  | .bool b => "boolean `" ++ (if b then "true" else "false") ++ "`"
  | .integer n => "integer `" ++ toString n ++ "`"
  | .float shown => "floating point `" ++ shown ++ "`"
  | .string quoted => "string " ++ quoted
  | .array => "sequence"
  | .object => "map"

end Found

inductive Category where
  /-- The text is no JSON. -/
  | malformed
  /-- The text is JSON of another form than the one wanted. -/
  | data
  /-- The text ends too early. -/
  | eof
  deriving DecidableEq, Repr

inductive Cause where
  | eofValue
  | eofList
  | eofObject
  | eofString
  | expectedValue
  | expectedIdent
  | expectedColon
  | expectedListCommaOrEnd
  | expectedObjectCommaOrEnd
  | trailingComma
  | trailingCharacters
  | keyMustBeString
  | invalidNumber
  | numberOutOfRange
  | invalidEscape
  | controlCharacter
  | loneSurrogate
  | unfinishedSurrogate
  | tooDeep
  /-- A value of another type than the one named. -/
  | invalidType (found : Found) (expected : String)
  /-- A value of the right type outside the range named. -/
  | invalidValue (found : Found) (expected : String)
  | missingField (name : String)
  | duplicateField (name : String)
  | invalidLength (length : Nat) (expected : String)
  | unknownVariant (name : String) (known : List String)
  /-- A text that the form of its value refuses, in the words of that form. -/
  | refused (why : String)
  deriving DecidableEq, Repr

namespace Cause

/-- How the allowed names of a choice are listed. -/
def listed (names : List String) : String :=
  let quoted := names.map fun n => "`" ++ n ++ "`"
  match quoted with
  | [] => "there are no variants"
  | [a] => "expected " ++ a
  | [a, b] => "expected " ++ a ++ " or " ++ b
  | more => "expected one of " ++ ", ".intercalate more

def message : Cause → String
  | .eofValue => "EOF while parsing a value"
  | .eofList => "EOF while parsing a list"
  | .eofObject => "EOF while parsing an object"
  | .eofString => "EOF while parsing a string"
  | .expectedValue => "expected value"
  | .expectedIdent => "expected ident"
  | .expectedColon => "expected `:`"
  | .expectedListCommaOrEnd => "expected `,` or `]`"
  | .expectedObjectCommaOrEnd => "expected `,` or `\x7d`"
  | .trailingComma => "trailing comma"
  | .trailingCharacters => "trailing characters"
  | .keyMustBeString => "key must be a string"
  | .invalidNumber => "invalid number"
  | .numberOutOfRange => "number out of range"
  | .invalidEscape => "invalid escape"
  | .controlCharacter => "control character (\\u0000-\\u001F) found while parsing a string"
  | .loneSurrogate => "lone leading surrogate in hex escape"
  | .unfinishedSurrogate => "unexpected end of hex escape"
  | .tooDeep => "recursion limit exceeded"
  | .invalidType found expected => "invalid type: " ++ found.describe ++ ", expected " ++ expected
  | .invalidValue found expected => "invalid value: " ++ found.describe ++ ", expected " ++ expected
  | .missingField name => "missing field `" ++ name ++ "`"
  | .duplicateField name => "duplicate field `" ++ name ++ "`"
  | .invalidLength n expected => "invalid length " ++ toString n ++ ", expected " ++ expected
  | .unknownVariant name known => "unknown variant `" ++ name ++ "`, " ++ listed known
  | .refused why => why

def category : Cause → Category
  | .eofValue | .eofList | .eofObject | .eofString => .eof
  | .invalidType .. | .invalidValue .. | .missingField .. | .duplicateField .. | .invalidLength ..
  | .unknownVariant .. | .refused .. => .data
  | _ => .malformed

end Cause

/-- A cause and the byte offset it is reported at. -/
structure Fault where
  cause : Cause
  offset : Nat
  deriving DecidableEq, Repr

/-- A place in a text: the line from 1, the bytes since the last line feed. -/
structure Position where
  line : Nat
  column : Nat
  deriving DecidableEq, Repr

def Position.of (text : List Char) (offset : Nat) : Position :=
  go ⟨1, 0⟩ offset text
where
  /-- Walks the text until the offset is used up; an offset inside a character counts its bytes. -/
  go (p : Position) (left : Nat) : List Char → Position
    | [] => p
    | c :: rest =>
      if left = 0 then p
      else if c = '\n' then go ⟨p.line + 1, 0⟩ (left - 1) rest
      else go ⟨p.line, p.column + min left c.utf8Size⟩ (left - c.utf8Size) rest

structure Error where
  cause : Cause
  position : Option Position
  deriving DecidableEq, Repr

namespace Error

def message (e : Error) : String :=
  match e.position with
  | some p => e.cause.message ++ " at line " ++ toString p.line ++ " column " ++ toString p.column
  | none => e.cause.message

end Error

def Fault.locate (f : Fault) (text : List Char) : Error :=
  ⟨f.cause, some (Position.of text f.offset)⟩

end MangaReader.Json
