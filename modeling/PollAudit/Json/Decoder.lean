import PollAudit.Count
import PollAudit.Json.Skip

namespace PollAudit.Json

/-- Reads a value of a known type, with at most `room - 1` lists and objects open in it. -/
abbrev Decoder (α : Type) := (room : Nat) → Reader α

namespace Decoder

/-- Fails on a value of another type than the expected one. A scalar is read first, a list or an
object is refused where it begins. -/
def mismatch {α : Type} (expected : String) : Reader α := do
  match ← Reader.peekWord with
  | none => Reader.failNext .expectedValue
  | some '[' => Reader.failHere (.wrongType .list expected)
  | some '\x7b' => Reader.failHere (.wrongType .object expected)
  | some 'n' => do
    Reader.skip
    Reader.keyword ['u', 'l', 'l']
    Reader.failHere (.wrongType .null expected)
  | some 't' => do
    Reader.skip
    Reader.keyword ['r', 'u', 'e']
    Reader.failHere (.wrongType (.boolean true) expected)
  | some 'f' => do
    Reader.skip
    Reader.keyword ['a', 'l', 's', 'e']
    Reader.failHere (.wrongType (.boolean false) expected)
  | some '"' => do
    let s ← Reader.text
    Reader.failHere (.wrongType (.text s) expected)
  | some c =>
    if c = '-' || c.isDigit then do
      let n ← Reader.number
      Reader.failHere (.wrongType (.ofNumber n) expected)
    else Reader.failNext .expectedValue

/-- The next character that is no blank, without which there is no value. -/
def start : Reader Char := do
  match ← Reader.peekWord with
  | none => Reader.failNext .endOfValue
  | some c => pure c

def text : Decoder String := fun _ => do
  if (← start) = '"' then Reader.text else mismatch "a string"

def flag : Decoder Bool := fun _ => do
  match ← start with
  | 't' => do
    Reader.skip
    Reader.keyword ['r', 'u', 'e']
    pure true
  | 'f' => do
    Reader.skip
    Reader.keyword ['a', 'l', 's', 'e']
    pure false
  | _ => mismatch "a boolean"

/-- Reads an integer between two bounds, of a type of the given name. -/
def integer (least greatest : Int) (type : String) : Decoder Int := fun _ => do
  let c ← start
  if c = '-' || c.isDigit then
    match ← Reader.number with
    | .integer n =>
      if least ≤ n && n ≤ greatest then pure n
      else Reader.failHere (.wrongValue (.integer n) type)
    | .real x => Reader.failHere (.wrongType (.real x) type)
  else mismatch type

def int64 : Decoder Int := integer (-9223372036854775808) 9223372036854775807 "i64"

/-- Reads a count, called by the name of the type that holds it. -/
def count (type : String) : Decoder Count := fun room => do
  let n ← integer 0 18446744073709551615 type room
  pure (Count.ofInt n)

/-- Null is nothing. -/
def optional {α : Type} (decoder : Decoder α) : Decoder (Option α) := fun room => do
  match ← Reader.peekWord with
  | some 'n' => do
    Reader.skip
    Reader.keyword ['u', 'l', 'l']
    pure none
  | _ => some <$> decoder room

/-- Opens a list or an object if there is room for it. -/
def descend {α : Type} (room : Nat) (inside : (room : Nat) → Reader α) : Reader α :=
  if room ≤ 1 then Reader.failNext .tooDeep
  else do
    Reader.skip
    inside (room - 1)

def list {α : Type} (decoder : Decoder α) : Decoder (List α) := fun room => do
  if (← start) = '[' then descend room fun room => Reader.items (decoder room)
  else mismatch "a sequence"

/-- Reads one of several names, written as a string or as the key of an object that holds null. -/
def choice {α : Type} (options : List (String × α)) : Decoder α := fun room => do
  match ← Reader.peekWord with
  | none => Reader.failNext .endOfValue
  | some '"' => named
  | some '\x7b' => descend room fun _ => do
    let a ← key
    Reader.colon
    if (← start) = 'n' then
      Reader.skip
      Reader.keyword ['u', 'l', 'l']
    else mismatch "unit"
    match ← Reader.peekWord with
    | some '\x7d' => do
      Reader.skip
      pure a
    | some _ => Reader.failHere .expectedValue
    | none => Reader.failHere .endOfObject
  | some _ => Reader.failNext .expectedValue
where
  /-- Reads the name that an object begins with. -/
  key : Reader α := do
    match ← Reader.peekWord with
    | some '"' => named
    | some '\x7d' => Reader.failNext .expectedValue
    | some _ => Reader.failNext .keyMustBeString
    | none => Reader.failHere .endOfObject
  /-- Reads a name from its opening quote. -/
  named : Reader α := do
    let name ← Reader.text
    match options.find? (·.1 == name) with
    | some option => pure option.2
    | none => Reader.failHere (.unknownVariant name (options.map (·.1)))

/-- Runs a decoder on a text that must hold nothing else. -/
def run {α : Type} (decoder : Decoder α) (text : String) : Except Fault α :=
  (decoder depthLimit).run text

end Decoder

end PollAudit.Json
