import PollAudit.Polling.Aggregate

namespace PollAudit

/-- The parameters of a reconciler, fixed for a run. -/
structure Policy where
  /-- A refresh is due in every cycle whose index this divides. -/
  refreshEvery : Count
  /-- The streak from which a mismatch is reported. -/
  escalateAfter : Streak
  refreshEvery_ne_zero : refreshEvery ≠ 0 := by decide
deriving DecidableEq, Repr

/-- A refresh in every fifth cycle, and a report from the second mismatch in a row. -/
def Policy.standard : Policy := ⟨5, 2, by decide⟩

/-- Why the configuration is fetched anew. -/
inductive RefreshReason
  | scheduled
  | mismatch
deriving DecidableEq, Repr

def RefreshReason.name : RefreshReason → String
  | scheduled => "scheduled"
  | mismatch => "mismatch"

/-- Whether the counts agree, or for how many cycles they have not. -/
inductive Phase
  | synced
  | mismatched (streak : Streak)
deriving DecidableEq, Repr

/-- What one cycle's comparison says. A mismatch always asks for a refresh. -/
inductive Verdict
  | synced
  | mismatched (streak : Streak)
deriving DecidableEq, Repr

/-- What a reconciler remembers between cycles. -/
structure Ledger where
  expected : Count := 0
  lastMismatch : Option Count := none
  mismatches : Streak := 0
  cycle : Count := 0
deriving DecidableEq, Repr

def Ledger.phase (ledger : Ledger) : Phase :=
  if ledger.mismatches = 0 then .synced else .mismatched ledger.mismatches

/-- What one cycle found. -/
structure CycleReport where
  cycle : Count
  lockouts : Bool
  expected : Count
  total : Count
  inFlight : Count
  queue : Count
  standby : Count
  phase : Phase
  incorrect : Option Count
deriving DecidableEq, Repr

/-- Compares the sampled totals with the expected count and tells a lasting mismatch from a
passing one. -/
structure Reconciler where
  policy : Policy
  ledger : Ledger := {}
deriving DecidableEq, Repr

namespace Reconciler

/-- Starts a cycle and says whether a scheduled refresh is due, as it is in the very first. -/
def begin (r : Reconciler) : Bool × Reconciler :=
  (r.ledger.cycle % r.policy.refreshEvery == 0,
    { r with ledger := { r.ledger with cycle := r.ledger.cycle + 1 } })

/-- Stores a recomputed expected count and says whether it changed. A changed count is a change
of the configuration, so a running streak is dropped. -/
def applyExpected (r : Reconciler) (count : Count) : Bool × Reconciler :=
  if count = r.ledger.expected then (false, r)
  else
    (true, { r with
      ledger := { r.ledger with expected := count, mismatches := 0, lastMismatch := none } })

/-- Compares a cycle's total with the expected count. -/
def observe (r : Reconciler) (total : Count) : Verdict × Reconciler :=
  if total = r.ledger.expected then
    (.synced, { r with ledger := { r.ledger with mismatches := 0, lastMismatch := none } })
  else
    let streak := r.ledger.mismatches.next
    (.mismatched streak,
      { r with ledger := { r.ledger with mismatches := streak, lastMismatch := some total } })

/-- The mismatching total to report, once the streak is long enough. -/
def escalated (r : Reconciler) : Option Count :=
  if r.policy.escalateAfter ≤ r.ledger.mismatches then r.ledger.lastMismatch else none

/-- The report of the current cycle. -/
def report (r : Reconciler) (aggregate : Aggregate) : CycleReport where
  cycle := r.ledger.cycle
  lockouts := aggregate.lockouts
  expected := r.ledger.expected
  total := aggregate.total
  inFlight := aggregate.inFlight
  queue := aggregate.queue
  standby := aggregate.standby
  phase := r.ledger.phase
  incorrect := r.escalated

end Reconciler

end PollAudit
