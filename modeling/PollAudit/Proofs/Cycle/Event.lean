import PollAudit.Audit.Monitor
import PollAudit.Proofs.Warning

namespace PollAudit

/-- The run of mismatching cycles that a phase counts. -/
def Phase.streak : Phase → Streak
  | synced => 0
  | mismatched streak => streak

/-- The streak that the phase shows is the number of mismatches. -/
theorem Ledger.streak_phase (ledger : Ledger) : ledger.phase.streak = ledger.mismatches := by
  unfold phase
  split
  · rename_i h
    exact h.symm
  · rfl

/-- What is noted of a report whose mismatch persists. -/
def CycleReport.alarm (report : CycleReport) : List Event :=
  report.incorrect.toList.map fun incorrect =>
    { level := .warn
      message := "polling count mismatch persists"
      fields :=
        [("expected", .number report.expected.toNat), ("actual", .number incorrect.toNat),
         ("streak", .number report.phase.streak.toNat)] }

/-- The alarm of a report is a warning as a whole. -/
theorem CycleReport.atLeast_alarm (report : CycleReport) :
    Event.atLeast .warn report.alarm = report.alarm := by
  unfold alarm
  cases report.incorrect <;> rfl

namespace Monitor

/-- What is noted of a tree that was found and whose count is compared with the one held. -/
def treeEvents (reason : RefreshReason) (networks : List Network) (held count : Count) :
    List Event :=
  let fields := [("reason", .text reason.name), ("expected", .number count.toNat)]
  [{ level := .debug
     message := "fetched configuration snapshot"
     fields := [("networks", .number networks.length)] },
   if count = held then { level := .debug, message := "snapshot refreshed", fields }
   else { level := .info, message := "expected point count changed", fields }]

/-- What is noted of the counters, summed. -/
def sumEvents (aggregate : Aggregate) : List Event :=
  [{ level := .debug
     message := "cycle sample complete"
     fields :=
       [("sampled", .number aggregate.sampled.toNat),
        ("skipped", .number aggregate.skipped.toNat),
        ("total", .number aggregate.total.toNat)] }]

/-- What is noted of a total that is compared with the count held, where `streak` is the run of
mismatches before it. -/
def compareEvents (held total : Count) (streak : Streak) : List Event :=
  if total = held then []
  else
    [{ level := .debug
       message := "aggregate does not match expected count"
       fields :=
         [("expected", .number held.toNat), ("total", .number total.toNat),
          ("streak", .number streak.next.toNat)] }]

/-- A fetched tree is no reason for a warning. -/
@[simp] theorem atLeast_treeEvents (reason : RefreshReason) (networks : List Network)
    (held count : Count) : Event.atLeast .warn (treeEvents reason networks held count) = [] := by
  unfold treeEvents
  split <;> rfl

/-- The sums of the samples are no reason for a warning. -/
@[simp] theorem atLeast_sumEvents (aggregate : Aggregate) :
    Event.atLeast .warn (sumEvents aggregate) = [] := rfl

/-- A mismatch by itself is no reason for a warning. -/
@[simp] theorem atLeast_compareEvents (held total : Count) (streak : Streak) :
    Event.atLeast .warn (compareEvents held total streak) = [] := by
  unfold compareEvents
  split <;> rfl

/-- What is noted of how a cycle ended. -/
def alarm (result : Except Failure CycleReport) : List Event :=
  result.toOption.elim [] CycleReport.alarm

@[simp] theorem alarm_ok (report : CycleReport) : alarm (.ok report) = report.alarm := rfl

@[simp] theorem alarm_error (failure : Failure) : alarm (.error failure) = [] := rfl

end Monitor

end PollAudit
