import PollAudit.Text.Direction

namespace PollAudit.Idna

open Text

/-- A label that must be read in one direction among others of the opposite one. -/
def isBidi (label : List Char) : Bool :=
  label.any fun c =>
    match Direction.ofChar c with
    | .right | .arabicNumber => true
    | _ => false

/-- The last direction that is not a mark's. -/
def lastDirection? (directions : List Direction) : Option Direction :=
  (directions.reverse.dropWhile (· == .mark)).head?

/-- The characters of a label keep their places in a text of mixed directions: the first is a
letter, the others go with its direction, the last one is a letter or a number, and numbers of
two kinds do not meet. -/
def keepsOrder (label : List Char) : Bool :=
  let directions := label.map Direction.ofChar
  match directions with
  | [] => true
  | .left :: rest =>
    rest.all (fun d => d != .right && d != .arabicNumber) &&
      (match lastDirection? directions with
      | some .left | some .number => true
      | _ => false)
  | .right :: rest =>
    rest.all (· != .left) &&
      (match lastDirection? directions with
      | some .right | some .number | some .arabicNumber => true
      | _ => false) &&
      !(directions.contains .number && directions.contains .arabicNumber)
  | _ => false

end PollAudit.Idna
