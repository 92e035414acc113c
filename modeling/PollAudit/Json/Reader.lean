import PollAudit.Json.Number
import PollAudit.Json.Text

namespace PollAudit.Json

/-- The number of lists and objects that may be open at once, and one more. -/
def depthLimit : Nat := 128

namespace Reader

/-- Reads the items of a list behind its opening bracket, and the closing one. -/
def items {α : Type} (item : Reader α) : Reader (List α) := do
  let start ← get
  loop [] (start.rest.length + 1)
where
  /-- The items found so far are in reverse. Every one takes a character, which bounds the loop. -/
  loop (found : List α) : Nat → Reader (List α)
    | 0 => failHere .endOfList
    | fuel + 1 => do
      match ← peekWord with
      | none => failNext .endOfList
      | some ']' => do
        skip
        pure found.reverse
      | some c =>
        if found.isEmpty then loop ((← item) :: found) fuel
        else if c = ',' then
          skip
          match ← peekWord with
          | none => failNext .endOfValue
          | some ']' => failNext .trailingComma
          | some _ => loop ((← item) :: found) fuel
        else failNext .expectedListCommaOrEnd

/-- Reads the members of an object behind its opening brace, and the closing one. Each member is
read by `member`, from behind its key, into what the ones before it have made. -/
def members {σ : Type} (member : String → σ → Reader σ) (initial : σ) : Reader σ := do
  let start ← get
  loop true initial (start.rest.length + 1)
where
  /-- Reads a key and its member. -/
  entry (made : σ) : Reader σ := do
    match ← peekWord with
    | none => failNext .endOfValue
    | some '"' => do
      let key ← text
      member key made
    | some '\x7d' => failNext .trailingComma
    | some _ => failNext .keyMustBeString
  /-- Every member takes a character, which bounds the loop. -/
  loop (first : Bool) (made : σ) : Nat → Reader σ
    | 0 => failHere .endOfObject
    | fuel + 1 => do
      match ← peekWord with
      | none => failNext .endOfObject
      | some '\x7d' => do
        skip
        pure made
      | some c =>
        if first then loop false (← entry made) fuel
        else if c = ',' then
          skip
          loop false (← entry made) fuel
        else failNext .expectedObjectCommaOrEnd

/-- Reads the colon between a key and its member. -/
def colon : Reader Unit := do
  match ← peekWord with
  | none => failNext .endOfObject
  | some ':' => skip
  | some _ => failNext .expectedColon

/-- Reads any value, with at most `room - 1` lists and objects open in it. -/
def value : (room : Nat) → Reader Value
  | 0 => failNext .tooDeep
  | room + 1 => do
    match ← peekWord with
    | none => failNext .endOfValue
    | some 'n' => do
      skip
      keyword ['u', 'l', 'l']
      pure .null
    | some 't' => do
      skip
      keyword ['r', 'u', 'e']
      pure (.boolean true)
    | some 'f' => do
      skip
      keyword ['a', 'l', 's', 'e']
      pure (.boolean false)
    | some '"' => do
      let s ← text
      pure (.text s)
    | some '[' =>
      if room = 0 then failNext .tooDeep
      else do
        skip
        let found ← items (value room)
        pure (.list found)
    | some '\x7b' =>
      if room = 0 then failNext .tooDeep
      else do
        skip
        let found ← members
          (fun key made => do
            colon
            let item ← value room
            pure (Members.set key item made))
          ([] : Members)
        pure (.object found)
    | some c =>
      if c = '-' || c.isDigit then do
        let n ← number
        pure (.number n)
      else failNext .expectedValue

end Reader

/-- Reads a text that holds one value. -/
def Value.parse (text : String) : Except Fault Value :=
  (Reader.value depthLimit).run text

end PollAudit.Json
