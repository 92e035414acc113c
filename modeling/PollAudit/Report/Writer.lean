import PollAudit.Exit
import PollAudit.Report.Render

namespace PollAudit

/-- An output that may break: after `room` more characters, or at the flush after `flushes` more
of them. Reports are ASCII, so a character is a byte. -/
structure Writer where
  written : String := ""
  room : Option Nat := none
  flushes : Option Nat := none
deriving DecidableEq, Repr

namespace Writer

/-- The part of a text that fits into `room`. -/
def fitting (room : Option Nat) (text : String) : String :=
  match room with
  | none => text
  | some n => String.ofList (text.toList.take n)

/-- Writes a text as far as it fits and says whether all of it did. -/
def put (w : Writer) (text : String) : Bool × Writer :=
  let taken := fitting w.room text
  (taken == text,
    { w with
      written := w.written ++ taken
      room := w.room.map (· - text.length) })

/-- Flushes and says whether that worked. -/
def flush (w : Writer) : Bool × Writer :=
  match w.flushes with
  | none => (true, w)
  | some 0 => (false, w)
  | some (n + 1) => (true, { w with flushes := some n })

/-- Writes a report's block and flushes. -/
def report (w : Writer) (colour : Bool) (report : CycleReport) : Except Exit Unit × Writer :=
  match w.put (report.block colour) with
  | (false, w) => (.error .output, w)
  | (true, w) =>
    match w.flush with
    | (false, w) => (.error .output, w)
    | (true, w) => (.ok (), w)

end Writer

end PollAudit
