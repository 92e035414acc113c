import PollAudit.Json.Value
import PollAudit.Text.Quoted

namespace PollAudit.Json

/-- A place in a text: the line, counted from one, and the bytes read of it. -/
structure Place where
  line : Nat := 1
  column : Nat := 0
deriving DecidableEq, Repr

namespace Place

/-- The place behind a character. -/
def after (place : Place) (c : Char) : Place :=
  if c = '\n' then ⟨place.line + 1, 0⟩ else ⟨place.line, place.column + c.utf8Size⟩

/-- The place behind the first `n` bytes of a text. -/
def afterBytes (place : Place) : Nat → List Char → Place
  | _, [] => place
  | 0, _ => place
  | n, c :: rest =>
    if c = '\n' then afterBytes ⟨place.line + 1, 0⟩ (n - 1) rest
    else if n < c.utf8Size then ⟨place.line, place.column + n⟩
    else afterBytes ⟨place.line, place.column + c.utf8Size⟩ (n - c.utf8Size) rest

end Place

/-- What a text holds where something else was expected. -/
inductive Found
  | null
  | boolean (b : Bool)
  | integer (n : Int)
  | real (x : Binary64)
  | text (s : String)
  | list
  | object
deriving DecidableEq, Repr

def Found.ofNumber : Number → Found
  | .integer n => integer n
  | .real x => real x

/-- What is wrong with a text. -/
inductive Reason
  | endOfList
  | endOfObject
  | endOfString
  | endOfValue
  | expectedColon
  | expectedListCommaOrEnd
  | expectedObjectCommaOrEnd
  | expectedIdent
  | expectedValue
  | invalidEscape
  | invalidNumber
  | numberOutOfRange
  | controlCharacter
  | keyMustBeString
  | loneSurrogate
  | unexpectedEndOfEscape
  | trailingComma
  | trailingCharacters
  | tooDeep
  | wrongType (found : Found) (expected : String)
  | wrongValue (found : Found) (expected : String)
  | wrongLength (length : Nat) (expected : String)
  | unknownVariant (name : String) (known : List String)
  | missingMember (key : String)
  | repeatedMember (key : String)
deriving DecidableEq, Repr

/-- A name between grave accents. -/
def ticked (name : String) : String := "`" ++ name ++ "`"

def Found.message : Found → String
  | null => "null"
  | boolean b => "boolean " ++ ticked (toString b)
  | integer n => "integer " ++ ticked (toString n)
  | real x => "floating point " ++ ticked x.text
  | text s => "string " ++ Text.quoted s
  | list => "sequence"
  | object => "map"

/-- A choice of names in words. -/
def oneOf : List String → String
  | [] => ""
  | [a] => ticked a
  | [a, b] => ticked a ++ " or " ++ ticked b
  | names => "one of " ++ ", ".intercalate (names.map ticked)

def Reason.message : Reason → String
  | endOfList => "EOF while parsing a list"
  | endOfObject => "EOF while parsing an object"
  | endOfString => "EOF while parsing a string"
  | endOfValue => "EOF while parsing a value"
  | expectedColon => "expected " ++ ticked ":"
  | expectedListCommaOrEnd => "expected " ++ ticked "," ++ " or " ++ ticked "]"
  | expectedObjectCommaOrEnd => "expected " ++ ticked "," ++ " or " ++ ticked "\x7d"
  | expectedIdent => "expected ident"
  | expectedValue => "expected value"
  | invalidEscape => "invalid escape"
  | invalidNumber => "invalid number"
  | numberOutOfRange => "number out of range"
  | controlCharacter => "control character (\\u0000-\\u001F) found while parsing a string"
  | keyMustBeString => "key must be a string"
  | loneSurrogate => "lone leading surrogate in hex escape"
  | unexpectedEndOfEscape => "unexpected end of hex escape"
  | trailingComma => "trailing comma"
  | trailingCharacters => "trailing characters"
  | tooDeep => "recursion limit exceeded"
  | wrongType found expected => s!"invalid type: {found.message}, expected {expected}"
  | wrongValue found expected => s!"invalid value: {found.message}, expected {expected}"
  | wrongLength length expected => s!"invalid length {length}, expected {expected}"
  | unknownVariant name known =>
    "unknown variant " ++ ticked name ++ ", expected " ++ oneOf known
  | missingMember key => "missing field " ++ ticked key
  | repeatedMember key => "duplicate field " ++ ticked key

/-- Why and where a text could not be read. -/
structure Fault where
  reason : Reason
  place : Place
deriving DecidableEq, Repr

def Fault.message (fault : Fault) : String :=
  s!"{fault.reason.message} at line {fault.place.line} column {fault.place.column}"

end PollAudit.Json
