import PollAudit.Audit.Reconciler
import PollAudit.Failure
import PollAudit.Url.Parser

namespace PollAudit

/-- What a run watches, and how often. Times are in milliseconds. -/
structure Setting where
  /-- Where the service is found. -/
  base : Url
  /-- The plugin whose networks are watched. -/
  plugin : String := "module-core-modbus"
  /-- The pause between two cycles. A part of a millisecond counts as a whole one. -/
  interval : Nat := 5000
  /-- How long an answer is waited for. -/
  timeout : Nat := 30000
  policy : Policy := Policy.standard
deriving DecidableEq, Repr

namespace Setting

/-- The setting for a service at an address given as text. -/
def ofAddress (text : String) : Except Failure Setting :=
  match Url.parse ("http://" ++ text) with
  | .ok base => .ok { base := base }
  | .error error => .error (.setting s!"invalid address '{text}': {error.message}")

end Setting

end PollAudit
