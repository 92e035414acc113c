import PollAudit.Json.Reader

namespace PollAudit.Json

/-- Passes over a string behind its opening quote. Escapes are checked for their form only, and a
control character is reported where it stands. -/
def skipString : (used : Nat) → List Char → Place → Except Fault (Unit × Cursor)
  | _, [], place => .error ⟨.endOfString, place⟩
  | used + 1, c :: rest, place => skipString used rest (place.after c)
  | 0, c :: rest, place =>
    if c = '"' then .ok ((), ⟨rest, place.after c⟩)
    else if c = '\\' then
      let place := place.after c
      match rest with
      | [] => .error ⟨.endOfString, place⟩
      | 'u' :: quad => do
        let _ ← hexQuad quad (place.after 'u')
        skipString 5 rest place
      | d :: _ =>
        if d ∈ ['"', '\\', '/', 'b', 'f', 'n', 'r', 't'] then skipString 1 rest place
        else .error ⟨.invalidEscape, place.afterBytes 1 rest⟩
    else if c.toNat < 32 then .error ⟨.controlCharacter, place⟩
    else skipString 0 rest (place.after c)

namespace Reader

/-- Passes over a string from its opening quote. -/
def skipText : Reader Unit := do
  skip
  fun cursor => skipString 0 cursor.rest cursor.place

/-- Passes over an exponent from its letter on. -/
def skipExponent : Reader Unit := do
  skip
  match ← peek with
  | some '+' | some '-' => skip
  | _ => pure ()
  let found ← digits
  if found.isEmpty then failNext .invalidNumber

/-- Passes over the digits behind a point, from the point on. -/
def skipDecimals : Reader Unit := do
  skip
  let found ← digits
  if found.isEmpty then failNext .invalidNumber
  match ← peek with
  | some 'e' | some 'E' => skipExponent
  | _ => pure ()

/-- Passes over a number behind its sign. -/
def skipNumber : Reader Unit := do
  match ← peek with
  | some '0' => do
    skip
    match ← peek with
    | some d => if d.isDigit then failNext .invalidNumber
    | none => pure ()
  | _ => do
    let found ← digits
    if found.isEmpty then failNext .invalidNumber
  match ← peek with
  | some '.' => skipDecimals
  | some 'e' | some 'E' => skipExponent
  | _ => pure ()

/-- What an unread value is inside of. -/
inductive Frame
  | list
  | object
deriving DecidableEq, Repr

/-- Where the passing over of nested values stands. -/
inductive Stage
  /-- In front of a value. -/
  | value
  /-- Behind an opening bracket or brace. -/
  | opened
  /-- Behind a value. -/
  | closed
deriving DecidableEq, Repr

/-- Passes over the key and the colon in front of a member. -/
def skipKey : Reader Unit := do
  match ← peekWord with
  | none => failNext .endOfObject
  | some '"' => skipText
  | some _ => failNext .keyMustBeString
  colon

/-- Goes on to the next value inside of a frame. -/
def enter : Frame → Reader Unit
  | .list => pure ()
  | .object => skipKey

/-- Passes over a scalar, or opens a list or an object. -/
def skipStart : Reader (Option Frame) := do
  match ← peekWord with
  | none => failNext .endOfValue
  | some 'n' => do
    skip
    keyword ['u', 'l', 'l']
    pure none
  | some 't' => do
    skip
    keyword ['r', 'u', 'e']
    pure none
  | some 'f' => do
    skip
    keyword ['a', 'l', 's', 'e']
    pure none
  | some '-' => do
    skip
    skipNumber
    pure none
  | some '"' => do
    skipText
    pure none
  | some '[' => do
    skip
    pure (some .list)
  | some '\x7b' => do
    skip
    pure (some .object)
  | some c =>
    if c.isDigit then do
      skipNumber
      pure none
    else failNext .expectedValue

/-- Passes over a value inside of `frames`, innermost first, and all that follows up to the end of
the outermost. The nesting is not limited. -/
def skipLoop : (fuel : Nat) → Stage → List Frame → Reader Unit
  | 0, _, _ => failHere .endOfValue
  | fuel + 1, .value, frames => do
    match ← skipStart with
    | none => skipLoop fuel .closed frames
    | some frame => skipLoop fuel .opened (frame :: frames)
  | _ + 1, _, [] => pure ()
  | fuel + 1, stage, frame :: outer => do
    match ← peekWord, frame with
    | none, .list => failNext .endOfList
    | none, .object => failNext .endOfObject
    | some ']', .list => do
      skip
      skipLoop fuel .closed outer
    | some '\x7d', .object => do
      skip
      skipLoop fuel .closed outer
    | some c, frame =>
      if stage = .opened then
        enter frame
        skipLoop fuel .value (frame :: outer)
      else if c = ',' then
        skip
        enter frame
        skipLoop fuel .value (frame :: outer)
      else
        match frame with
        | .list => failNext .expectedListCommaOrEnd
        | .object => failNext .expectedObjectCommaOrEnd

/-- Passes over one value. Every second step takes a character, which bounds the loop. -/
def skipValue : Reader Unit := do
  let start ← get
  skipLoop (2 * start.rest.length + 2) .value []

end Reader

end PollAudit.Json
