import PollAudit.Url.Ipv4

namespace PollAudit.Url.Ipv6

/-- Takes up to `n` hexadecimal digits: their value, their number and the rest. -/
def hex (value digits : Nat) : (n : Nat) → List Char → Nat × Nat × List Char
  | 0, text => (value, digits, text)
  | _ + 1, [] => (value, digits, [])
  | n + 1, c :: rest =>
    match Ipv4.digit? 16 c with
    | some d => hex (16 * value + d) (digits + 1) n rest
    | none => (value, digits, c :: rest)

/-- Reads a decimal number under 256 without leading zeros, written in full by the text. -/
def byte? (text : List Char) : Option Nat :=
  match text with
  | [] => none
  | ['0'] => some 0
  | '0' :: _ => none
  | _ =>
    match Ipv4.value? 10 text with
    | some n => if n < 256 then some n else none
    | none => none

/-- Reads the two pieces of an address that end it as four decimal bytes. -/
def dotted? (text : List Char) : Option (List Nat) := do
  match ← (Ipv4.labels text).mapM byte? with
  | [a, b, c, d] => some [256 * a + b, 256 * c + d]
  | _ => none

/-- The pieces read so far: all of them, and where the double colon stood among them. The double
colon itself takes one piece at least. -/
structure Found where
  pieces : List Nat := []
  gap : Option Nat := none

namespace Found

/-- The pieces taken up so far. -/
def size (found : Found) : Nat := found.pieces.length + if found.gap.isSome then 1 else 0

def push (found : Found) (more : List Nat) : Found :=
  { found with pieces := found.pieces ++ more }

/-- The eight pieces of the address, zeros where the double colon stands. -/
def close? (found : Found) : Option (List Nat) :=
  match found.gap with
  | none => if found.pieces.length = 8 then some found.pieces else none
  | some gap =>
    some (found.pieces.take gap ++ List.replicate (8 - found.pieces.length) 0 ++
      found.pieces.drop gap)

end Found

/-- Reads pieces up to the end of the text. Each takes a character, which bounds the recursion. -/
def pieces? (found : Found) : (fuel : Nat) → List Char → Option Found
  | _, [] => some found
  | 0, _ => none
  | fuel + 1, c :: rest =>
    if found.size = 8 then none
    else if c = ':' then
      if found.gap.isSome then none
      else pieces? { found with gap := some found.pieces.length } fuel rest
    else
      match hex 0 0 4 (c :: rest) with
      | (value, _, []) => some (found.push [value])
      | (value, digits, d :: behind) =>
        if d = ':' then
          if behind.isEmpty then none else pieces? (found.push [value]) fuel behind
        else if d = '.' && digits != 0 && found.size ≤ 6 then
          (dotted? (c :: rest)).map found.push
        else none

/-- Reads an address without its brackets. -/
def parse? (text : List Char) : Option (List Nat) := do
  let found ←
    match text with
    | ':' :: ':' :: rest => pieces? { gap := some 0 } text.length rest
    | ':' :: _ => none
    | [] | [_] => none
    | _ => pieces? {} text.length text
  found.close?

/-- A piece in hexadecimal. -/
def hexText (n : Nat) : String := String.ofList (Nat.toDigits 16 n)

/-- The number of zeros at the front. -/
def zeros (pieces : List Nat) : Nat := (pieces.takeWhile (· == 0)).length

/-- The first longest run of zeros among the pieces from position `at` on, as its position and
length. -/
def longestZeros (start : Nat) : List Nat → Nat × Nat
  | [] => (start, 0)
  | n :: rest =>
    let here := zeros (n :: rest)
    let (position, length) := longestZeros (start + 1) rest
    if length ≤ here then (start, here) else (position, length)

/-- An address as text: a double colon stands for the first longest run of two or more zeros. -/
def text (pieces : List Nat) : String :=
  let (position, length) := longestZeros 0 pieces
  if 2 ≤ length then
    ":".intercalate ((pieces.take position).map hexText) ++ "::" ++
      ":".intercalate ((pieces.drop (position + length)).map hexText)
  else ":".intercalate (pieces.map hexText)

end PollAudit.Url.Ipv6
