import PollAudit.Count
import PollAudit.Polling.Priority

namespace PollAudit

/-- The queue length of each priority class. -/
structure QueueLengths where
  asap : Count := 0
  high : Count := 0
  normal : Count := 0
  low : Count := 0
deriving DecidableEq, Repr

/-- The counters of one network's polling engine at one moment. -/
structure LiveStats where
  network : String := ""
  enabled : Bool := false
  queue : Count := 0
  standby : Count := 0
  inFlight : Count := 0
  lockups : Lockups := {}
  byPriority : QueueLengths := {}
  polls : Count := 0
  busyTime : Option String := none
deriving DecidableEq, Repr

/-- The points the polling engine holds, in whatever state. -/
def LiveStats.total (stats : LiveStats) : Count :=
  (stats.queue.plus stats.standby).plus stats.inFlight

end PollAudit
