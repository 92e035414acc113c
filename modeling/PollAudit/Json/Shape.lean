import PollAudit.Json.Decoder

namespace PollAudit.Json

/-- Where a member of a record may be missing. -/
inductive Absence
  /-- Nowhere. -/
  | refused
  /-- In an object, but not in a list of the members' values. -/
  | keyed
  /-- In an object, and at the end of a list. -/
  | anywhere
deriving DecidableEq, Repr

/-- A member of a record of type `α`: how to read it into a record. -/
structure Member (α : Type) where
  key : String
  absence : Absence
  read : Decoder (α → α)

/-- A member that holds a `β`. -/
def Member.of {α β : Type} (key : String) (absence : Absence) (decoder : Decoder β)
    (set : β → α → α) : Member α where
  key := key
  absence := absence
  read := fun room => set <$> decoder room

/-- What becomes of the members of an object that a record does not have. -/
inductive Surplus (α : Type)
  | dropped
  | kept (keep : String → Value → α → α)

/-- A record as JSON: an object of its members, or the list of their values in order. A record
that keeps foreign members is an object only. -/
structure Shape (α : Type) where
  name : String
  /-- The record before any member is read. -/
  blank : α
  members : List (Member α)
  surplus : Surplus α

namespace Shape

variable {α : Type}

/-- The record in messages. -/
def title (shape : Shape α) : String := "struct " ++ shape.name

/-- The record and its size in messages. -/
def titleOfList (shape : Shape α) : String :=
  let n := shape.members.length
  shape.title ++ " with " ++ toString n ++ (if n = 1 then " element" else " elements")

/-- Fails at the end of the object, if that is what comes next. -/
def failInObject {β : Type} (reason : Reason) : Reader β := do
  match ← Reader.peekWord with
  | some '\x7d' => Reader.skip
  | _ => pure ()
  Reader.failHere reason

/-- Reads one member of an object from behind its key, with the keys read before it. -/
def member (shape : Shape α) (room : Nat) (key : String) (made : α × List String) :
    Reader (α × List String) := do
  match shape.members.find? (·.key == key) with
  | some known =>
    if made.2.contains key then failInObject (.repeatedMember key)
    else
      Reader.colon
      let set ← known.read room
      pure (set made.1, key :: made.2)
  | none =>
    Reader.colon
    match shape.surplus with
    | .dropped =>
      Reader.skipValue
      pure made
    | .kept keep =>
      let value ← Reader.value room
      pure (keep key value made.1, made.2)

/-- The first member that an object with the given keys lacks. -/
def missing? (shape : Shape α) (keys : List String) : Option (Member α) :=
  shape.members.find? fun member => member.absence == .refused && !keys.contains member.key

/-- Reads an object behind its opening brace. -/
def object (shape : Shape α) (room : Nat) : Reader α := do
  let (made, keys) ← Reader.members (shape.member room) (shape.blank, [])
  match shape.missing? keys with
  | some absent => Reader.failHere (.missingMember absent.key)
  | none => pure made

/-- Reads the values of the remaining members, `read` of which came before, up to the end of the
list. -/
def values (shape : Shape α) (room : Nat) (read : Nat) (made : α) : List (Member α) → Reader α
  | [] => do
    match ← Reader.peekWord with
    | none => Reader.failNext .endOfList
    | some ']' => do
      Reader.skip
      pure made
    | some ',' => do
      Reader.skip
      match ← Reader.peekWord with
      | some ']' => Reader.failNext .trailingComma
      | _ => Reader.failNext .trailingCharacters
    | some _ => Reader.failNext .trailingCharacters
  | next :: rest => do
    match ← Reader.peekWord with
    | none => Reader.failNext .endOfList
    | some ']' =>
      if (next :: rest).all (·.absence == .anywhere) then do
        Reader.skip
        pure made
      else do
        Reader.skip
        Reader.failHere
          (.wrongLength (read + ((next :: rest).takeWhile (·.absence == .anywhere)).length)
            shape.titleOfList)
    | some c => do
      if read != 0 then
        if c = ',' then
          Reader.skip
          match ← Reader.peekWord with
          | none => Reader.failNext .endOfValue
          | some ']' => Reader.failNext .trailingComma
          | some _ => pure ()
        else Reader.failNext .expectedListCommaOrEnd
      let set ← next.read room
      values shape room (read + 1) (set made) rest

/-- Reads a record. -/
def decode (shape : Shape α) : Decoder α := fun room => do
  let c ← Decoder.start
  if c = '\x7b' then Decoder.descend room shape.object
  else
    match c, shape.surplus with
    | '[', .dropped =>
      Decoder.descend room fun room => shape.values room 0 shape.blank shape.members
    | _, _ => Decoder.mismatch shape.title

end Shape

end PollAudit.Json
