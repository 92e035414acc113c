namespace PollAudit

/-- How much an event matters. -/
inductive Level
  | debug
  | info
  | warn
deriving DecidableEq, Repr

namespace Level

def name : Level → String
  | debug => "DEBUG"
  | info => "INFO"
  | warn => "WARN"

def severity : Level → Nat
  | debug => 0
  | info => 1
  | warn => 2

end Level

/-- What a field of an event holds. -/
inductive Datum
  | number (n : Nat)
  | text (s : String)
deriving DecidableEq, Repr

/-- One line of the diary that a run keeps beside its reports. -/
structure Event where
  level : Level
  message : String
  fields : List (String × Datum) := []
deriving DecidableEq, Repr

namespace Event

/-- The events at `least` or more severe. -/
def atLeast (least : Level) (events : List Event) : List Event :=
  events.filter fun event => least.severity ≤ event.level.severity

end Event

end PollAudit
