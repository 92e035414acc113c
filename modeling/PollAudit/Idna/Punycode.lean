import PollAudit.Text.Split

namespace PollAudit.Idna.Punycode

/-- The digit for a value under 36: the letters, then the decimal digits. -/
def digitChar (n : Nat) : Char :=
  if n < 26 then Char.ofNat ('a'.toNat + n) else Char.ofNat ('0'.toNat + (n - 26))

def digitValue? (c : Char) : Option Nat :=
  if 'a' ≤ c ∧ c ≤ 'z' then some (c.toNat - 'a'.toNat)
  else if 'A' ≤ c ∧ c ≤ 'Z' then some (c.toNat - 'A'.toNat)
  else if c.isDigit then some (c.toNat - '0'.toNat + 26)
  else none

/-- The least value of a digit at a place that says another digit follows. -/
def threshold (bias place : Nat) : Nat := max 1 (min 26 (place - bias))

private theorem threshold_pos (bias place : Nat) : 0 < threshold bias place := by
  unfold threshold
  omega

/-- Divides by 35 until the value is small: the value left and 36 for every division. -/
def shrink (delta bias : Nat) : Nat × Nat :=
  if 455 < delta then shrink (delta / 35) (bias + 36) else (delta, bias)
termination_by delta
decreasing_by omega

/-- The bias after a step of `delta` that made the text `length` characters long. -/
def adapt (delta length : Nat) (first : Bool) : Nat :=
  let delta := if first then delta / 700 else delta / 2
  let (delta, bias) := shrink (delta + delta / length) 0
  bias + 36 * delta / (delta + 38)

/-- The digits of a step, the least one first. -/
def digits (bias place n : Nat) : List Char :=
  let t := threshold bias place
  if n < t then [digitChar n]
  else digitChar (t + (n - t) % (36 - t)) :: digits bias (place + 36) ((n - t) / (36 - t))
termination_by n
decreasing_by
  have pos := threshold_pos bias place
  have le := Nat.div_le_self (n - threshold bias place) (36 - threshold bias place)
  omega

/-- What an encoder has written, the steps since its last digits, its bias and the number of
characters that it has dealt with. -/
structure Progress where
  written : List Char := []
  steps : Nat := 0
  bias : Nat := 72
  done : Nat

/-- Passes a character while the code point `n` is being written. -/
def pass (n basic : Nat) (p : Progress) (c : Char) : Progress :=
  if c.toNat < n then { p with steps := p.steps + 1 }
  else if c.toNat = n then
    { written := p.written ++ digits p.bias 36 p.steps
      steps := 0
      bias := adapt p.steps (p.done + 1) (p.done == basic)
      done := p.done + 1 }
  else p

/-- Writes the code points of a text that are listed, ascending and from `start` on. -/
def encodeFrom (text : List Char) (basic start : Nat) (p : Progress) : List Nat → List Char
  | [] => p.written
  | n :: rest =>
    let p := { p with steps := p.steps + (n - start) * (p.done + 1) }
    let p := text.foldl (pass n basic) p
    encodeFrom text basic (n + 1) { p with steps := p.steps + 1 } rest

def isBasic (c : Char) : Bool := c.toNat < 0x80

/-- A text in ASCII: its own ASCII characters first, then where the others go. -/
def encode (text : List Char) : List Char :=
  let basic := text.filter isBasic
  let others := (((text.filter (!isBasic ·)).map Char.toNat).mergeSort).eraseDups
  (if basic.isEmpty then [] else basic ++ ['-']) ++
    encodeFrom text basic.length 0x80 { done := basic.length } others

/-- What a decoder has restored, the position and code point of the last insertion, and its
bias. -/
structure Restored where
  text : List Char
  position : Nat := 0
  code : Nat := 0x80
  bias : Nat := 72

/-- Inserts the character that lies `steps` behind the last one. -/
def insert? (r : Restored) (first : Bool) (steps : Nat) : Option Restored :=
  let length := r.text.length + 1
  let reached := r.position + steps
  let code := r.code + reached / length
  let position := reached % length
  if code.isValidChar then
    some
      { text := r.text.take position ++ Char.ofNat code :: r.text.drop position
        position := position + 1
        code := code
        bias := adapt steps length first }
  else none

/-- Restores the characters that digits stand for. Of the step being read, `steps` are known and
the next digit counts `weight` at `place`. Numbers beyond 32 bits are refused. -/
def decodeFrom (r : Restored) (first : Bool) (place weight steps : Nat) :
    List Char → Option (List Char)
  | [] => if place = 36 then some r.text else none
  | c :: rest =>
    match digitValue? c with
    | none => none
    | some n =>
      let steps := steps + n * weight
      let t := threshold r.bias place
      if UInt32.size ≤ r.position + steps then none
      else if n < t then
        match insert? r first steps with
        | none => none
        | some r => decodeFrom r false 36 1 0 rest
      else if UInt32.size ≤ weight * (36 - t) then none
      else decodeFrom r first (place + 36) (weight * (36 - t)) steps rest

/-- The characters in front of the last dash and those behind it. Without a dash, or with nothing
in front of it, the whole text is behind. -/
def splitBasic (text : List Char) : List Char × List Char :=
  match Text.splitAtLast? '-' text with
  | some (c :: basic, rest) => (c :: basic, rest)
  | _ => ([], text)

/-- The text that was encoded. -/
def decode? (text : List Char) : Option (List Char) :=
  let (basic, rest) := splitBasic text
  if basic.all isBasic then decodeFrom { text := basic } true 36 1 0 rest else none

end PollAudit.Idna.Punycode
