import PollAudit.Failure
import PollAudit.Proofs.Polling.Sum
import PollAudit.Proofs.Reconciler.Move

namespace PollAudit

/-- All that a sampling has to say: the sums of the counters of the enabled networks, cut at the
greatest count, and whether one of these networks is stalled. -/
structure Reading where
  queue : Count
  standby : Count
  inFlight : Count
  lockouts : Bool
deriving DecidableEq, Repr

namespace Reading

def ofSamples (samples : List LiveStats) : Reading where
  queue := .ofNat (LiveStats.sumOf LiveStats.queue samples)
  standby := .ofNat (LiveStats.sumOf LiveStats.standby samples)
  inFlight := .ofNat (LiveStats.sumOf LiveStats.inFlight samples)
  lockouts := samples.any fun stats => stats.enabled && stats.lockups.any

/-- An aggregate that shows the reading, whatever networks it came from. -/
def aggregate (reading : Reading) : Aggregate where
  queue := reading.queue
  standby := reading.standby
  inFlight := reading.inFlight
  lockouts := reading.lockouts

def total (reading : Reading) : Count :=
  reading.aggregate.total

/-- The sums that are taken sample by sample are the reading's. -/
theorem aggregate_ofSamples (samples : List LiveStats) :
    (ofSamples samples).aggregate =
      { Aggregate.ofSamples samples with sampled := 0, skipped := 0 } := by
  have hqueue : (ofSamples samples).queue = (Aggregate.ofSamples samples).queue := by
    apply UInt64.toNat_inj.mp
    rw [ofSamples, Count.toNat_ofNat, Aggregate.toNat_queue]
  have hstandby : (ofSamples samples).standby = (Aggregate.ofSamples samples).standby := by
    apply UInt64.toNat_inj.mp
    rw [ofSamples, Count.toNat_ofNat, Aggregate.toNat_standby]
  have hinFlight : (ofSamples samples).inFlight = (Aggregate.ofSamples samples).inFlight := by
    apply UInt64.toNat_inj.mp
    rw [ofSamples, Count.toNat_ofNat, Aggregate.toNat_inFlight]
  have hlockouts : (ofSamples samples).lockouts = (Aggregate.ofSamples samples).lockouts :=
    (Aggregate.lockouts_ofSamples samples).symm
  rw [aggregate, hqueue, hstandby, hinFlight, hlockouts]

/-- A reading has the total of the samples. -/
theorem total_ofSamples (samples : List LiveStats) :
    (ofSamples samples).total = (Aggregate.ofSamples samples).total := by
  rw [total, aggregate_ofSamples]
  rfl

end Reading

/-- A reading has all that a report shows of the samples. -/
theorem Reconciler.report_ofSamples (r : Reconciler) (samples : List LiveStats) :
    r.report (Reading.ofSamples samples).aggregate = r.report (Aggregate.ofSamples samples) := by
  rw [Reading.aggregate_ofSamples]
  rfl

/-- Figures to be consumed one after the other: the expected counts of the trees and the readings
of the samplings, or what these failed of. -/
structure Figures where
  counts : Nat → Except Failure Count
  readings : Nat → Except Failure Reading

/-- A machine that runs the cycle on figures instead of replies. It keeps how many it consumed. -/
structure Machine where
  reconciler : Reconciler
  trees : Nat := 0
  samplings : Nat := 0
deriving DecidableEq, Repr

namespace Machine

variable (figures : Figures)

/-- Consumes the count of a tree and hands it to the reconciler. -/
def refresh (m : Machine) : Except Failure Unit × Machine :=
  match figures.counts m.trees with
  | .error failure => (.error failure, { m with trees := m.trees + 1 })
  | .ok count =>
    (.ok (),
      { m with reconciler := (m.reconciler.applyExpected count).2, trees := m.trees + 1 })

/-- Consumes a reading, compares its total, refreshes on a mismatch and reports. -/
def finish (m : Machine) : Except Failure CycleReport × Machine :=
  match figures.readings m.samplings with
  | .error failure => (.error failure, { m with samplings := m.samplings + 1 })
  | .ok reading =>
    let (verdict, reconciler) := m.reconciler.observe reading.total
    let m := { m with reconciler := reconciler, samplings := m.samplings + 1 }
    match verdict with
    | .synced => (.ok (m.reconciler.report reading.aggregate), m)
    | .mismatched _ =>
      match m.refresh figures with
      | (.error failure, m) => (.error failure, m)
      | (.ok (), m) => (.ok (m.reconciler.report reading.aggregate), m)

/-- One cycle, refreshed first when that is due. -/
def cycle (m : Machine) : Except Failure CycleReport × Machine :=
  let (due, reconciler) := m.reconciler.begin
  let m := { m with reconciler := reconciler }
  if due then
    match m.refresh figures with
    | (.error failure, m) => (.error failure, m)
    | (.ok (), m) => m.finish figures
  else m.finish figures

/-- The machine after a number of cycles, be they successful or not. -/
def after (m : Machine) : Nat → Machine
  | 0 => m
  | n + 1 => ((after m n).cycle figures).2

/-- How cycle `n` ends, counted from zero. -/
def result (m : Machine) (n : Nat) : Except Failure CycleReport :=
  ((m.after figures n).cycle figures).1

section Equations

variable {figures} {r : Reconciler} {trees samplings : Nat} {failure : Failure} {count : Count}
  {reading : Reading}

/-- A refresh without a count fails and makes no move. -/
theorem refresh_of_error (h : figures.counts trees = .error failure) :
    refresh figures ⟨r, trees, samplings⟩ = (.error failure, ⟨r, trees + 1, samplings⟩) := by
  rw [refresh, h]

/-- A refresh applies the next count. -/
theorem refresh_of_ok (h : figures.counts trees = .ok count) :
    refresh figures ⟨r, trees, samplings⟩ =
      (.ok (), ⟨r.move (.apply count), trees + 1, samplings⟩) := by
  rw [refresh, h]
  rfl

/-- Without a reading a cycle fails at the samples. -/
theorem finish_of_error (h : figures.readings samplings = .error failure) :
    finish figures ⟨r, trees, samplings⟩ = (.error failure, ⟨r, trees, samplings + 1⟩) := by
  rw [finish, h]

/-- A reading that matches ends the cycle with its report. -/
theorem finish_of_eq (h : figures.readings samplings = .ok reading)
    (htotal : reading.total = r.ledger.expected) :
    finish figures ⟨r, trees, samplings⟩ =
      (.ok ((r.move (.observe reading.total)).report reading.aggregate),
        ⟨r.move (.observe reading.total), trees, samplings + 1⟩) := by
  rw [finish, h]
  simp [Reconciler.observe, Reconciler.move, htotal]

/-- A reading that does not match calls for a refresh before the report. -/
theorem finish_of_ne (h : figures.readings samplings = .ok reading)
    (htotal : reading.total ≠ r.ledger.expected) :
    finish figures ⟨r, trees, samplings⟩ =
      match refresh figures ⟨r.move (.observe reading.total), trees, samplings + 1⟩ with
      | (.error failure, m) => (.error failure, m)
      | (.ok (), m) => (.ok (m.reconciler.report reading.aggregate), m) := by
  rw [finish, h]
  simp [Reconciler.observe, Reconciler.move, htotal]

/-- A cycle in which no tree is due goes on to the samples at once. -/
theorem cycle_of_not_due (h : r.begin.1 = false) :
    cycle figures ⟨r, trees, samplings⟩ =
      finish figures ⟨r.move .begin, trees, samplings⟩ := by
  simp only [cycle, h]
  rfl

/-- A cycle in which a tree is due begins with a refresh, and fails with it. -/
theorem cycle_of_due (h : r.begin.1 = true) :
    cycle figures ⟨r, trees, samplings⟩ =
      match refresh figures ⟨r.move .begin, trees, samplings⟩ with
      | (.error failure, m) => (.error failure, m)
      | (.ok (), m) => m.finish figures := by
  simp only [cycle, h]
  rfl

end Equations

end Machine

end PollAudit
