import PollAudit.Audit.Monitor
import PollAudit.Exit

namespace PollAudit

/-- What can end a run. A failed request is one of these things. -/
class Ending (ε : Type) where
  ofFailure : Failure → ε

instance : Ending Exit := ⟨Exit.ofFailure⟩

/-- What surrounds a run: where its reports and events go, and the pause between cycles. -/
structure Host (m : Type → Type) (ε : Type := Exit) where
  /-- Takes a report, or refuses it and so ends the run. -/
  report : CycleReport → m (Except ε Unit)
  /-- Takes the events of a cycle. -/
  tell : List Event → m Unit
  /-- Waits for a number of whole milliseconds. The clock makes no shorter steps: it rounds a part
  of one up. -/
  pause : Nat → m Unit

namespace Monitor

/-- No pause is longer than thirty years of 365 days, in milliseconds. -/
def longestPause : Nat := 30 * 365 * 24 * 60 * 60 * 1000

/-- Runs at most `cycles` cycles with pauses between them, and fewer when a cycle fails or a report
is refused. Gives what ended the run, or nothing when it could go on. The interval is in whole
milliseconds, with a part of one rounded up as the clock does. -/
def run {m : Type → Type} [Monad m] {ε : Type} [Ending ε] (source : Source m) (host : Host m ε)
    (interval : Nat) : (cycles : Nat) → Monitor → m (Option ε × Monitor)
  | 0, monitor => pure (none, monitor)
  | cycles + 1, monitor => do
    let (reply, monitor) ← monitor.cycle source
    host.tell reply.events
    match reply.result with
    | .error failure => pure (some (Ending.ofFailure failure), monitor)
    | .ok report =>
      match ← host.report report with
      | .error ending => pure (some ending, monitor)
      | .ok () =>
        if interval ≠ 0 then host.pause (min interval longestPause)
        run source host interval cycles monitor

end Monitor

end PollAudit
