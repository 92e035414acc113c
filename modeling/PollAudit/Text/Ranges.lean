import PollAudit.Text.Split

namespace PollAudit.Text

/-- A set of characters as ranges of code points, ascending and disjoint. -/
abbrev Ranges := Array (Nat × Nat)

namespace Ranges

/-- The value of a hexadecimal digit. -/
def digit (c : Char) : Nat :=
  if c.isDigit then c.toNat - '0'.toNat else c.toNat - 'a'.toNat + 10

/-- The value of lower-case hexadecimal digits. -/
def hex (digits : List Char) : Nat :=
  digits.foldl (fun n c => 16 * n + digit c) 0

/-- Reads a range, written as its ends with a dash between, or as the one code point in it. -/
def ofText (text : List Char) : Nat × Nat :=
  let first := text.takeWhile (· != '-')
  match text.dropWhile (· != '-') with
  | [] => (hex first, hex first)
  | _ :: last => (hex first, hex last)

/-- Reads the ranges written on several lines. -/
def ofLines (lines : List String) : Ranges :=
  (lines.flatMap fun line => (split ' ' line.toList).map ofText).toArray

/-- Looks for a code point between two positions, halving the distance `fuel` times at most. -/
def search (ranges : Ranges) (n : Nat) : (fuel low high : Nat) → Bool
  | 0, _, _ => false
  | fuel + 1, low, high =>
    if high ≤ low then false
    else
      let middle := (low + high) / 2
      match ranges[middle]? with
      | none => false
      | some (first, last) =>
        if n < first then search ranges n fuel low middle
        else if last < n then search ranges n fuel (middle + 1) high
        else true

/-- The code point lies in one of the ranges. -/
def contains (ranges : Ranges) (n : Nat) : Bool :=
  search ranges n (ranges.size + 1) 0 ranges.size

end Ranges

end PollAudit.Text
