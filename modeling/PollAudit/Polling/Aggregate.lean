import PollAudit.Polling.Stats

namespace PollAudit

/-- The counters of one cycle, summed over the networks whose polling is enabled. -/
structure Aggregate where
  queue : Count := 0
  standby : Count := 0
  inFlight : Count := 0
  lockouts : Bool := false
  /-- Networks whose counters went in. -/
  sampled : Count := 0
  /-- Networks that were sampled but are disabled. -/
  skipped : Count := 0
deriving DecidableEq, Repr

namespace Aggregate

/-- Takes in one sample. A disabled network is only counted as skipped. -/
def absorb (aggregate : Aggregate) (stats : LiveStats) : Aggregate :=
  if stats.enabled then
    { queue := aggregate.queue.plus stats.queue
      standby := aggregate.standby.plus stats.standby
      inFlight := aggregate.inFlight.plus stats.inFlight
      lockouts := aggregate.lockouts || stats.lockups.any
      sampled := aggregate.sampled.plus 1
      skipped := aggregate.skipped }
  else
    { aggregate with skipped := aggregate.skipped.plus 1 }

def ofSamples (samples : List LiveStats) : Aggregate :=
  samples.foldl absorb {}

def total (aggregate : Aggregate) : Count :=
  (aggregate.queue.plus aggregate.standby).plus aggregate.inFlight

end Aggregate

end PollAudit
