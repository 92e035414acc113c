import PollAudit.Json.Fault

namespace PollAudit.Json

/-- What is left of a text, and how far into the text it begins. -/
structure Cursor where
  rest : List Char
  place : Place := {}
deriving DecidableEq, Repr

/-- A blank of JSON text. -/
def isBlank (c : Char) : Bool :=
  c == ' ' || c == '\n' || c == '\t' || c == '\r'

namespace Cursor

def ofText (text : String) : Cursor := { rest := text.toList }

/-- Skips the blanks at the front. -/
def dropBlanks (cursor : Cursor) : Cursor :=
  go cursor.rest cursor.place
where
  go : List Char → Place → Cursor
    | [], place => ⟨[], place⟩
    | c :: rest, place => if isBlank c then go rest (place.after c) else ⟨c :: rest, place⟩

/-- Skips one character. -/
def drop (cursor : Cursor) : Cursor :=
  match cursor.rest with
  | [] => cursor
  | c :: rest => ⟨rest, cursor.place.after c⟩

end Cursor

/-- Reads something from the front of a text. -/
abbrev Reader (α : Type) := StateT Cursor (Except Fault) α

namespace Reader

/-- The next character, which stays. -/
def peek : Reader (Option Char) := fun cursor => .ok (cursor.rest.head?, cursor)

/-- The next character that is no blank. It stays, the blanks before it are skipped. -/
def peekWord : Reader (Option Char) := fun cursor =>
  let cursor := cursor.dropBlanks
  .ok (cursor.rest.head?, cursor)

def skip : Reader Unit := fun cursor => .ok ((), cursor.drop)

/-- Fails at the place reached. -/
def failHere {α : Type} (reason : Reason) : Reader α := fun cursor =>
  .error ⟨reason, cursor.place⟩

/-- Fails one byte further, at the byte that cannot stand there. -/
def failNext {α : Type} (reason : Reason) : Reader α := fun cursor =>
  .error ⟨reason, cursor.place.afterBytes 1 cursor.rest⟩

/-- Reads the rest of a word of which the first letter was met. -/
def keyword : List Char → Reader Unit
  | [] => pure ()
  | c :: expected => do
    match ← peek with
    | none => failHere .endOfValue
    | some d =>
      if d = c then
        skip
        keyword expected
      else failNext .expectedIdent

/-- Runs a reader on a text that must hold nothing else but blanks. -/
def run {α : Type} (reader : Reader α) (text : String) : Except Fault α := do
  let whole : Reader α := do
    let a ← reader
    match ← peekWord with
    | none => pure a
    | some _ => failNext .trailingCharacters
  let (a, _) ← whole (Cursor.ofText text)
  pure a

end Reader

end PollAudit.Json
