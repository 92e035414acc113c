import PollAudit.Json.Cursor

namespace PollAudit.Json

/-- The value of a hexadecimal digit. -/
def hexValue? (c : Char) : Option Nat :=
  if c.isDigit then some (c.toNat - '0'.toNat)
  else if 'a' ≤ c ∧ c ≤ 'f' then some (c.toNat - 'a'.toNat + 10)
  else if 'A' ≤ c ∧ c ≤ 'F' then some (c.toNat - 'A'.toNat + 10)
  else none

/-- Reads four hexadecimal digits. They are taken as four bytes, whatever these are. -/
def hexQuad (text : List Char) (place : Place) : Except Fault Nat :=
  match text with
  | a :: b :: c :: d :: _ =>
    match hexValue? a, hexValue? b, hexValue? c, hexValue? d with
    | some a, some b, some c, some d => .ok (((a * 16 + b) * 16 + c) * 16 + d)
    | _, _, _, _ => .error ⟨.invalidEscape, place.afterBytes 4 text⟩
  | _ =>
    let size := text.foldl (fun size c => size + c.utf8Size) 0
    let reason := if 4 ≤ size then .invalidEscape else .endOfString
    .error ⟨reason, place.afterBytes 4 text⟩

/-- The place behind characters. -/
def Place.afterAll (place : Place) (text : List Char) : Place :=
  text.foldl Place.after place

/-- Reads what follows an escaped leading surrogate: the escape of a trailing one. -/
def trailingSurrogate (text : List Char) (place : Place) : Except Fault Nat :=
  match text with
  | [] => .error ⟨.endOfString, place⟩
  | '\\' :: rest =>
    let place := place.after '\\'
    match rest with
    | [] => .error ⟨.endOfString, place⟩
    | 'u' :: rest => do
      let place := place.after 'u'
      let n ← hexQuad rest place
      if 0xdc00 ≤ n && n ≤ 0xdfff then .ok n
      else .error ⟨.loneSurrogate, place.afterBytes 4 rest⟩
    | _ :: _ => .error ⟨.unexpectedEndOfEscape, place.afterBytes 1 rest⟩
  | _ :: _ => .error ⟨.unexpectedEndOfEscape, place.afterBytes 1 text⟩

/-- Reads what follows `\u`: the character, and the number of characters used. A character beyond
the first plane is a pair of escapes. -/
def unicodeEscape (text : List Char) (place : Place) : Except Fault (Char × Nat) := do
  let n ← hexQuad text place
  let behind := place.afterBytes 4 text
  if 0xdc00 ≤ n && n ≤ 0xdfff then .error ⟨.loneSurrogate, behind⟩
  else if 0xd800 ≤ n && n ≤ 0xdbff then
    let m ← trailingSurrogate (text.drop 4) behind
    .ok (Char.ofNat (0x10000 + (n - 0xd800) * 0x400 + (m - 0xdc00)), 10)
  else .ok (Char.ofNat n, 4)

/-- Reads what follows a backslash: the character meant, and the number of characters used. -/
def escape (text : List Char) (place : Place) : Except Fault (Char × Nat) :=
  match text with
  | [] => .error ⟨.endOfString, place⟩
  | '"' :: _ => .ok ('"', 1)
  | '\\' :: _ => .ok ('\\', 1)
  | '/' :: _ => .ok ('/', 1)
  | 'b' :: _ => .ok (Char.ofNat 8, 1)
  | 'f' :: _ => .ok (Char.ofNat 12, 1)
  | 'n' :: _ => .ok ('\n', 1)
  | 'r' :: _ => .ok ('\r', 1)
  | 't' :: _ => .ok ('\t', 1)
  | 'u' :: rest => do
    let (c, used) ← unicodeEscape rest (place.after 'u')
    .ok (c, used + 1)
  | _ :: _ => .error ⟨.invalidEscape, place.afterBytes 1 text⟩

/-- Reads a string behind its opening quote. The first number of characters belongs to an escape
that was already read; `found` holds the characters of the string in reverse. -/
def stringBody : (used : Nat) → (found : List Char) → List Char → Place →
    Except Fault (String × Cursor)
  | _, _, [], place => .error ⟨.endOfString, place⟩
  | used + 1, found, c :: rest, place => stringBody used found rest (place.after c)
  | 0, found, c :: rest, place =>
    if c = '"' then .ok (String.ofList found.reverse, ⟨rest, place.after c⟩)
    else if c = '\\' then do
      let (d, used) ← escape rest (place.after c)
      stringBody used (d :: found) rest (place.after c)
    else if c.toNat < 32 then .error ⟨.controlCharacter, place.afterBytes 1 [c]⟩
    else stringBody 0 (c :: found) rest (place.after c)

/-- Reads a string from its opening quote. -/
def Reader.text : Reader String := do
  Reader.skip
  fun cursor => stringBody 0 [] cursor.rest cursor.place

end PollAudit.Json
