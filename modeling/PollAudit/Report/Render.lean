import PollAudit.Audit.Reconciler

namespace PollAudit

/-- The colours a report uses. -/
inductive Tint
  | red
  | yellow
deriving DecidableEq, Repr

namespace Tint

/-- The number of the colour in a terminal's select-graphic-rendition sequence. -/
def code : Tint → Nat
  | red => 31
  | yellow => 33

/-- Sets a rendition parameter of the terminal. -/
def sequence (parameter : Nat) : String :=
  "\x1b[" ++ toString parameter ++ "m"

/-- The text in bold and in colour, with both taken back after it. -/
def paint (tint : Tint) (text : String) : String :=
  sequence 1 ++ sequence tint.code ++ text ++ sequence 39 ++ sequence 0

end Tint

namespace CycleReport

/-- A text, painted when `colour` is on. -/
def tinted (colour : Bool) (tint : Tint) (text : String) : String :=
  if colour then tint.paint text else text

/-- The lines of a report. The last one appears only once a mismatch has lasted. -/
def lines (report : CycleReport) (colour : Bool) : List String :=
  ["Lockouts: " ++ tinted (colour && report.lockouts) .yellow (toString report.lockouts),
   "expec points: " ++ toString report.expected.toNat,
   "total points: " ++ toString report.total.toNat,
   "    out:   " ++ toString report.inFlight.toNat,
   "    poll:  " ++ toString report.queue.toNat,
   "    stdby: " ++ toString report.standby.toNat] ++
  match report.incorrect with
  | none => []
  | some count => [tinted colour .red ("INCORRECT COUNT: " ++ toString count.toNat)]

/-- The report as one text, without a final line end. -/
def render (report : CycleReport) (colour : Bool) : String :=
  "\n".intercalate (report.lines colour)

/-- What a report adds to the output: its text, the end of its last line and an empty line. -/
def block (report : CycleReport) (colour : Bool) : String :=
  report.render colour ++ "\n\n"

end CycleReport

end PollAudit
