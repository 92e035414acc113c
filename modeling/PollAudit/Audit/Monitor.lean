import PollAudit.Audit.Batch
import PollAudit.Audit.Reconciler
import PollAudit.Tree.Expected

namespace PollAudit

/-- A monitor between two cycles. Its networks are chosen once, at the start. -/
structure Monitor where
  plugin : String
  watched : Watched
  reconciler : Reconciler
deriving DecidableEq, Repr

namespace Monitor

/-- What is noted about the networks found for `plugin` among `total` listed ones. -/
def discoveryEvents (plugin : String) (total : Nat) (watched : Watched) : List Event :=
  if watched.isEmpty then
    [{ level := .warn
       message := "no networks found for plugin; counts will stay at zero"
       fields := [("plugin", .text plugin), ("total", .number total)] }]
  else
    { level := .info
      message := "discovered networks to monitor"
      fields :=
        [("plugin", .text plugin), ("monitored", .number watched.size),
         ("total", .number total)] } ::
    watched.entries.map fun watch =>
      { level := .debug
        message := "monitoring network"
        fields := [("id", .text watch.id.text), ("name", .text watch.name)] }

/-- Lists the networks and fixes those that will be watched. -/
def start {m : Type → Type} [Monad m] (source : Source m) (plugin : String) (policy : Policy) :
    m (Reply Monitor) := do
  let reply ← source.listings
  match reply.result with
  | .error failure => pure ⟨.error failure, reply.events⟩
  | .ok listings =>
    let watched := Watched.ofListings listings plugin
    pure
      ⟨.ok { plugin := plugin, watched := watched, reconciler := { policy := policy } },
        reply.events ++ discoveryEvents plugin listings.length watched⟩

/-- A monitor in the middle of a cycle, with the events noted in it so far. -/
structure Turn where
  monitor : Monitor
  events : List Event := []

/-- A part of a cycle. A failure ends the cycle but keeps what was done before it. -/
abbrev Step (m : Type → Type) := ExceptT Failure (StateT Turn m)

namespace Step

variable {m : Type → Type} [Monad m]

/-- Notes events. -/
def note (events : List Event) : Step m Unit :=
  modify fun turn => { turn with events := turn.events ++ events }

/-- Makes a request, notes its events and goes on with its result. -/
def ask {α : Type} (request : m (Reply α)) : Step m α := do
  let reply ← (request : m (Reply α))
  note reply.events
  match reply.result with
  | .ok a => pure a
  | .error failure => throw failure

/-- Applies an operation of the reconciler. -/
def reconcile {α : Type} (operation : Reconciler → α × Reconciler) : Step m α :=
  modifyGet fun turn =>
    let (a, reconciler) := operation turn.monitor.reconciler
    (a, { turn with monitor := { turn.monitor with reconciler := reconciler } })

/-- Fetches the configuration and hands its expected count to the reconciler. -/
def refresh (source : Source m) (reason : RefreshReason) : Step m Unit := do
  let networks ← ask source.tree
  note
    [{ level := .debug
       message := "fetched configuration snapshot"
       fields := [("networks", .number networks.length)] }]
  let watched := (← get).monitor.watched
  let count := Snapshot.expected ⟨networks⟩ watched
  let changed ← reconcile (·.applyExpected count)
  let fields := [("reason", .text reason.name), ("expected", .number count.toNat)]
  if changed then
    note [{ level := .info, message := "expected point count changed", fields := fields }]
  else
    note [{ level := .debug, message := "snapshot refreshed", fields := fields }]

/-- Samples every watched network. -/
def sample (source : Source m) : Step m Aggregate := do
  let monitor := (← get).monitor
  let samples ← ask (Batch.run source monitor.plugin monitor.watched)
  let aggregate := Aggregate.ofSamples samples
  note
    [{ level := .debug
       message := "cycle sample complete"
       fields :=
         [("sampled", .number aggregate.sampled.toNat),
          ("skipped", .number aggregate.skipped.toNat),
          ("total", .number aggregate.total.toNat)] }]
  pure aggregate

/-- Compares the total of the samples with the expected count, and fetches the configuration anew
when they differ. -/
def compare (source : Source m) (total : Count) : Step m Unit := do
  match ← reconcile (·.observe total) with
  | .synced => pure ()
  | .mismatched streak =>
    let expected := (← get).monitor.reconciler.ledger.expected
    note
      [{ level := .debug
         message := "aggregate does not match expected count"
         fields :=
           [("expected", .number expected.toNat), ("total", .number total.toNat),
            ("streak", .number streak.toNat)] }]
    refresh source .mismatch

/-- Writes the report of the cycle. -/
def report (aggregate : Aggregate) : Step m CycleReport := do
  let reconciler := (← get).monitor.reconciler
  let report := reconciler.report aggregate
  match report.incorrect with
  | none => pure ()
  | some incorrect =>
    note
      [{ level := .warn
         message := "polling count mismatch persists"
         fields :=
           [("expected", .number report.expected.toNat), ("actual", .number incorrect.toNat),
            ("streak", .number reconciler.ledger.mismatches.toNat)] }]
  pure report

/-- One whole cycle. -/
def cycle (source : Source m) : Step m CycleReport := do
  if ← reconcile Reconciler.begin then
    refresh source .scheduled
  let aggregate ← sample source
  compare source aggregate.total
  report aggregate

end Step

/-- Runs one cycle: the report or the failure, the events, and the monitor after it. -/
def cycle {m : Type → Type} [Monad m] (source : Source m) (monitor : Monitor) :
    m (Reply CycleReport × Monitor) := do
  let (result, turn) ← (Step.cycle source).run.run { monitor := monitor }
  pure (⟨result, turn.events⟩, turn.monitor)

end Monitor

end PollAudit
