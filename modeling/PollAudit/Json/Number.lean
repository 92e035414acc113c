import PollAudit.Json.Cursor

namespace PollAudit.Json

/-- The value of a decimal digit. -/
def digitValue (c : Char) : Nat := c.toNat - '0'.toNat

/-- The significant digits of a number so far, as far as 64 bits hold them: those before the
point that did not fit are counted, those behind it are dropped. -/
structure Significand where
  value : Nat := 0
  exponent : Int := 0
deriving DecidableEq, Repr

namespace Significand

/-- Takes in digits before the point. From the first that does not fit on, digits only add to the
exponent. -/
def whole (s : Significand) : List Char → Significand
  | [] => s
  | c :: rest =>
    let next := 10 * s.value + digitValue c
    if next < UInt64.size then whole { s with value := next } rest
    else { s with exponent := s.exponent + (rest.length + 1) }

/-- Takes in digits behind the point, up to the first that does not fit. -/
def fraction (s : Significand) : List Char → Significand
  | [] => s
  | c :: rest =>
    let next := 10 * s.value + digitValue c
    if next < UInt64.size then fraction { value := next, exponent := s.exponent - 1 } rest
    else s

end Significand

/-- The powers of ten that a floating-point number reaches. -/
def powerLimit : Nat := 308

/-- A power of ten within `powerLimit`, rounded. -/
def power (n : Nat) : Binary64 :=
  (Binary64.ofRatio false (Nat.pow 10 n) 1).getD {}

/-- Multiplies by a power of ten in one rounding step, or in several where the power itself is out
of reach. None when the number becomes infinite. -/
def timesPower (x : Binary64) (exponent : Int) : (steps : Nat) → Option Binary64
  | 0 => some x
  | steps + 1 =>
    if exponent.natAbs ≤ powerLimit then
      if 0 ≤ exponent then x.mul (power exponent.natAbs) else x.div (power exponent.natAbs)
    else if x.isZero then some x
    else if 0 ≤ exponent then none
    else
      match x.div (power powerLimit) with
      | none => none
      | some y => timesPower y (exponent + powerLimit) steps

/-- The floating-point number of a significand, rounded first to 53 bits and then at each step
towards its power of ten. Three steps bring any significand to zero. -/
def Significand.toBinary64 (s : Significand) (negative : Bool) : Option Binary64 := do
  let x ← Binary64.ofRatio false s.value 1
  let y ← timesPower x s.exponent 4
  pure { y with negative := negative }

namespace Reader

/-- Takes the digits at the front. -/
def digits : Reader (List Char) := fun cursor =>
  let found := cursor.rest.takeWhile Char.isDigit
  .ok (found,
    ⟨cursor.rest.dropWhile Char.isDigit,
      { cursor.place with column := cursor.place.column + found.length }⟩)

/-- Ends a number that has a point or an exponent. -/
def real (negative : Bool) (s : Significand) : Reader Number := do
  match s.toBinary64 negative with
  | none => failHere .numberOutOfRange
  | some x => pure (.real x)

/-- The number of leading digits after which an exponent passes 31 bits. -/
def exponentDigits (value count : Nat) : List Char → Option Nat
  | [] => none
  | c :: rest =>
    let next := 10 * value + digitValue c
    if next < 2147483648 then exponentDigits next (count + 1) rest else some (count + 1)

/-- Reads an exponent from its letter on. -/
def exponent (negative : Bool) (s : Significand) : Reader Number := do
  skip
  let down ←
    match ← peek with
    | some '+' => do skip; pure false
    | some '-' => do skip; pure true
    | _ => pure false
  match ← peek with
  | none => failHere .endOfValue
  | some c =>
    if !c.isDigit then failNext .invalidNumber
    else
      let start ← get
      let found ← digits
      match exponentDigits 0 0 found with
      | none =>
        let e : Int := (found.foldl (fun n c => 10 * n + digitValue c) 0 : Nat)
        real negative { s with exponent := if down then s.exponent - e else s.exponent + e }
      | some count =>
        if s.value != 0 && !down then
          set { start with
            place := { start.place with column := start.place.column + count } }
          failHere .numberOutOfRange
        else real negative {}

/-- Reads the digits behind a point, from the point on. -/
def decimals (negative : Bool) (s : Significand) : Reader Number := do
  skip
  let found ← digits
  if found.isEmpty then
    match ← peek with
    | none => failNext .endOfValue
    | some _ => failNext .invalidNumber
  else
    let s := s.fraction found
    match ← peek with
    | some 'e' | some 'E' => exponent negative s
    | _ => real negative s

/-- The greatest integer of which 64 bits hold the opposite. -/
def negativeLimit : Nat := 9223372036854775808

/-- An integer, or the nearest floating-point number where 64 bits do not hold it. The opposite of
zero is a floating-point number too. -/
def integer (negative : Bool) (s : Significand) : Reader Number :=
  if s.exponent != 0 then real negative s
  else if !negative then pure (.integer s.value)
  else if s.value = 0 || negativeLimit < s.value then real true s
  else pure (.integer (-s.value))

/-- Reads a number behind its sign. -/
def unsigned (negative : Bool) : Reader Number := do
  match ← peek with
  | none => failHere .endOfValue
  | some c =>
    if !c.isDigit then failNext .invalidNumber
    else
      let found ← do
        if c = '0' then
          skip
          match ← peek with
          | some d => if d.isDigit then failNext .invalidNumber else pure ['0']
          | none => pure ['0']
        else digits
      let s := Significand.whole {} found
      match ← peek with
      | some '.' => decimals negative s
      | some 'e' | some 'E' => exponent negative s
      | _ => integer negative s

/-- Reads a number from its sign or first digit. -/
def number : Reader Number := do
  match ← peek with
  | some '-' => do
    skip
    unsigned true
  | _ => unsigned false

end Reader

end PollAudit.Json
