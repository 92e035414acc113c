import PollAudit.Text.Ranges

namespace PollAudit.Text

/-- The code points `first`, `first + step` and so on up to `last`, and what is filed for them. -/
structure Run where
  first : Nat
  last : Nat
  step : Nat
  values : List Nat

namespace Run

def contains (run : Run) (n : Nat) : Bool :=
  run.first ≤ n && n ≤ run.last && (n - run.first) % run.step == 0

/-- Reads a run: its ends as those of a range, its step behind a stroke unless that is 1, and its
values behind an angle with dots between. -/
def ofText (text : List Char) : Run :=
  let place := text.takeWhile (· != '>')
  let values := (text.dropWhile (· != '>')).drop 1
  let (first, last) := Ranges.ofText (place.takeWhile (· != '/'))
  { first := first
    last := last
    step := if place.contains '/' then Ranges.hex ((place.dropWhile (· != '/')).drop 1) else 1
    values := (split '.' values).map Ranges.hex }

end Run

/-- Runs in ascending order. Each ends before the next one begins. -/
abbrev Table := Array Run

namespace Table

/-- Reads the runs written on several lines. -/
def ofLines (lines : List String) : Table :=
  (lines.flatMap fun line => (split ' ' line.toList).map Run.ofText).toArray

/-- Looks for the run of a code point between two positions, halving the distance `fuel` times at
most. -/
def search (table : Table) (n : Nat) : (fuel low high : Nat) → Option Run
  | 0, _, _ => none
  | fuel + 1, low, high =>
    if high ≤ low then none
    else
      let middle := (low + high) / 2
      match table[middle]? with
      | none => none
      | some run =>
        if n < run.first then search table n fuel low middle
        else if run.last < n then search table n fuel (middle + 1) high
        else if run.contains n then some run
        else none

/-- The run that holds a code point. -/
def find? (table : Table) (n : Nat) : Option Run :=
  search table n (table.size + 1) 0 table.size

end Table

end PollAudit.Text
