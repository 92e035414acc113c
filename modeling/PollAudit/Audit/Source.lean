import PollAudit.Event
import PollAudit.Failure
import PollAudit.Polling.Stats
import PollAudit.Tree.Basic

namespace PollAudit

/-- How a request ended, with the events noted while it was made. -/
structure Reply (α : Type) where
  result : Except Failure α
  events : List Event := []

/-- A stats request that was sent. It has to be polled `delay` times before the poll that finds
its result. -/
structure Pending where
  delay : Nat := 0
  reply : Reply LiveStats

/-- The three reads a monitor makes, as effects of `m`. -/
structure Source (m : Type → Type) where
  /-- All networks, without their devices. -/
  listings : m (Reply (List Listing))
  /-- All networks with devices and points. -/
  tree : m (Reply (List Network))
  /-- The counters of one network, asked for by name. -/
  stats : (plugin network : String) → m Pending

end PollAudit
