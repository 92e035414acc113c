import PollAudit.Proofs.Cycle.Event
import PollAudit.Proofs.Reconciler.Move

namespace PollAudit.Monitor

/-- Operations of the reconciler, done to a monitor. -/
def perform (monitor : Monitor) (moves : List Move) : Monitor :=
  { monitor with reconciler := monitor.reconciler.perform moves }

@[simp] theorem perform_nil (monitor : Monitor) : monitor.perform [] = monitor := rfl

/-- Moves made in two goes are moves made in one. -/
@[simp] theorem perform_perform (monitor : Monitor) (before later : List Move) :
    (monitor.perform before).perform later = monitor.perform (before ++ later) := by
  simp [perform]

/-- Moves leave the plugin alone. -/
@[simp] theorem plugin_perform (monitor : Monitor) (moves : List Move) :
    (monitor.perform moves).plugin = monitor.plugin := rfl

/-- Moves leave the watched networks alone. -/
@[simp] theorem watched_perform (monitor : Monitor) (moves : List Move) :
    (monitor.perform moves).watched = monitor.watched := rfl

/-- Moves change the reconciler of a monitor just as they change it alone. -/
@[simp] theorem reconciler_perform (monitor : Monitor) (moves : List Move) :
    (monitor.perform moves).reconciler = monitor.reconciler.perform moves := rfl

namespace Step

/-- A cycle from its sampling on. -/
def later {m : Type → Type} [Monad m] (source : Source m) : Step m CycleReport := do
  let aggregate ← sample source
  compare source aggregate.total
  report aggregate

/-- A cycle is a refresh, if one is due, and what comes later in every cycle. -/
theorem cycle_eq_later {m : Type → Type} [Monad m] (source : Source m) :
    cycle source = (do
      let due ← reconcile Reconciler.begin
      if due then
        refresh source .scheduled >>= fun _ => later source
      else
        later source) := rfl

variable {σ α β : Type}

/-- A part of a cycle, run from a turn and from the world of its source. -/
def exec (step : Step (StateM σ) α) (turn : Turn) (world : σ) : (Except Failure α × Turn) × σ :=
  (step.run.run turn).run world

/-- A part of a cycle that starts at `monitor` and `world` ends with `result` at `monitor'` and
`world'`, and adds `events` to those noted before it. -/
def Runs (step : Step (StateM σ) α) (monitor : Monitor) (world : σ) (result : Except Failure α)
    (events : List Event) (monitor' : Monitor) (world' : σ) : Prop :=
  ∀ before, step.exec ⟨monitor, before⟩ world = ((result, ⟨monitor', before ++ events⟩), world')

private theorem exec_bind_of_ok {step : Step (StateM σ) α} {next : α → Step (StateM σ) β}
    {turn turn' : Turn} {world world' : σ} {a : α}
    (h : step.exec turn world = ((.ok a, turn'), world')) :
    (step >>= next).exec turn world = (next a).exec turn' world' := by
  simp only [exec, ExceptT.run_bind, StateT.run_bind] at h ⊢
  simp only [bind, h]

private theorem exec_bind_of_error {step : Step (StateM σ) α} {next : α → Step (StateM σ) β}
    {turn turn' : Turn} {world world' : σ} {failure : Failure}
    (h : step.exec turn world = ((.error failure, turn'), world')) :
    (step >>= next).exec turn world = ((.error failure, turn'), world') := by
  simp only [exec, ExceptT.run_bind, StateT.run_bind] at h ⊢
  simp only [bind, h]
  rfl

variable {source : Source (StateM σ)} {monitor monitor' monitor'' : Monitor} {world world' world'' : σ}

namespace Runs

/-- The events of a step may be written in another form. -/
theorem of_eq {step : Step (StateM σ) α} {result : Except Failure α} {events events' : List Event}
    (h : Runs step monitor world result events monitor' world') (heq : events = events') :
    Runs step monitor world result events' monitor' world' :=
  heq ▸ h

/-- Two steps run one after the other, each from what the one before it left. -/
theorem bind {step : Step (StateM σ) α} {next : α → Step (StateM σ) β} {a : α}
    {result : Except Failure β} {events later : List Event}
    (hstep : Runs step monitor world (.ok a) events monitor' world')
    (hnext : Runs (next a) monitor' world' result later monitor'' world'') :
    Runs (step >>= next) monitor world result (events ++ later) monitor'' world'' := by
  intro before
  rw [exec_bind_of_ok (hstep before), hnext, List.append_assoc]

/-- A step that notes nothing leaves the notes to what follows. -/
theorem bind_silent {step : Step (StateM σ) α} {next : α → Step (StateM σ) β} {a : α}
    {result : Except Failure β} {later : List Event}
    (hstep : Runs step monitor world (.ok a) [] monitor' world')
    (hnext : Runs (next a) monitor' world' result later monitor'' world'') :
    Runs (step >>= next) monitor world result later monitor'' world'' :=
  bind hstep hnext

/-- A step that fails leaves out what follows it. -/
theorem bind_error {step : Step (StateM σ) α} {next : α → Step (StateM σ) β} {failure : Failure}
    {events : List Event} (hstep : Runs step monitor world (.error failure) events monitor' world') :
    Runs (step >>= next) monitor world (.error failure) events monitor' world' :=
  fun before => exec_bind_of_error (hstep before)

/-- A result alone does nothing. -/
protected theorem pure (a : α) : Runs (pure a) monitor world (.ok a) [] monitor world := by
  intro before
  rw [List.append_nil]
  rfl

/-- Reading the turn gives the monitor to what follows. -/
theorem bind_get {next : Turn → Step (StateM σ) β} {result : Except Failure β} {events : List Event}
    (hnext : ∀ before, Runs (next ⟨monitor, before⟩) monitor world result events monitor' world') :
    Runs (get >>= next) monitor world result events monitor' world' := by
  intro before
  have hget : Step.exec (get : Step (StateM σ) Turn) ⟨monitor, before⟩ world =
      ((.ok ⟨monitor, before⟩, ⟨monitor, before⟩), world) := rfl
  rw [exec_bind_of_ok hget]
  exact hnext before before

/-- A note adds its events and does nothing else. -/
protected theorem note (events : List Event) :
    Runs (note events) monitor world (.ok ()) events monitor world :=
  fun _ => rfl

/-- A step that ends with a note. -/
theorem note_pure (events : List Event) (a : α) :
    Runs (Step.note events >>= fun _ => pure a) monitor world (.ok a) events monitor world :=
  (bind (Runs.note events) (Runs.pure a)).of_eq (List.append_nil events)

private theorem ask_ok {request : StateM σ (Reply α)} {a : α} {events : List Event}
    (h : request world = (⟨.ok a, events⟩, world')) :
    Runs (ask request) monitor world (.ok a) events monitor world' := by
  intro before
  have hlift : Step.exec (liftM request : Step (StateM σ) (Reply α)) ⟨monitor, before⟩ world =
      ((.ok ⟨.ok a, events⟩, ⟨monitor, before⟩), world') := by
    change (match request world with | (reply, world') => ((Except.ok reply, _), world')) = _
    rw [h]
  exact exec_bind_of_ok hlift

private theorem ask_error {request : StateM σ (Reply α)} {failure : Failure} {events : List Event}
    (h : request world = (⟨.error failure, events⟩, world')) :
    Runs (ask request) monitor world (.error failure) events monitor world' := by
  intro before
  have hlift : Step.exec (liftM request : Step (StateM σ) (Reply α)) ⟨monitor, before⟩ world =
      ((.ok ⟨.error failure, events⟩, ⟨monitor, before⟩), world') := by
    change (match request world with | (reply, world') => ((Except.ok reply, _), world')) = _
    rw [h]
  exact exec_bind_of_ok hlift

/-- An operation of the reconciler notes nothing. -/
theorem reconcile_move {operation : Reconciler → α × Reconciler} {a : α} {move : Move}
    (h : operation monitor.reconciler = (a, monitor.reconciler.move move)) :
    Runs (reconcile operation) monitor world (.ok a) [] (monitor.perform [move]) world := by
  intro before
  have hexec : Step.exec (reconcile operation : Step (StateM σ) α) ⟨monitor, before⟩ world =
      ((.ok (operation monitor.reconciler).1,
        ⟨{ monitor with reconciler := (operation monitor.reconciler).2 }, before⟩), world) := rfl
  rw [hexec, h, List.append_nil]
  rfl

/-- Starting a cycle tells whether a scheduled refresh is due. -/
theorem reconcile_begin :
    Runs (reconcile Reconciler.begin) monitor world (.ok monitor.reconciler.begin.1) []
      (monitor.perform [.begin]) world :=
  reconcile_move rfl

/-- A refresh that finds a tree hands its expected count over. -/
theorem refresh_ok {reason : RefreshReason} {networks : List Network} {events : List Event}
    (h : source.tree world = (⟨.ok networks, events⟩, world')) :
    let count := Snapshot.expected ⟨networks⟩ monitor.watched
    Runs (refresh source reason) monitor world (.ok ())
      (events ++ treeEvents reason networks monitor.reconciler.ledger.expected count)
      (monitor.perform [.apply count]) world' := by
  intro count
  have happly : monitor.reconciler.applyExpected count =
      (decide (count ≠ monitor.reconciler.ledger.expected),
        monitor.reconciler.move (.apply count)) := by
    by_cases hcount : count = monitor.reconciler.ledger.expected
    · simp [Reconciler.applyExpected, Reconciler.move, hcount]
    · simp [Reconciler.applyExpected, Reconciler.move, hcount]
  refine bind (ask_ok h) (bind (Runs.note _) (bind_get fun _ =>
    bind_silent (reconcile_move happly) ?_))
  by_cases hcount : count = monitor.reconciler.ledger.expected
  · rw [if_neg (by simpa using hcount), if_pos hcount]
    exact Runs.note _
  · rw [if_pos (by simpa using hcount), if_neg hcount]
    exact Runs.note _

/-- A refresh whose tree was missed fails with it and makes no move. -/
theorem refresh_error {reason : RefreshReason} {failure : Failure} {events : List Event}
    (h : source.tree world = (⟨.error failure, events⟩, world')) :
    Runs (refresh source reason) monitor world (.error failure) events monitor world' :=
  bind_error (ask_error h)

/-- A sampling gives the aggregate of the samples and notes its sums. -/
theorem sample_ok {samples : List LiveStats} {events : List Event}
    (h : Batch.run source monitor.plugin monitor.watched world = (⟨.ok samples, events⟩, world')) :
    Runs (sample source) monitor world (.ok (Aggregate.ofSamples samples))
      (events ++ sumEvents (Aggregate.ofSamples samples)) monitor world' :=
  bind_get fun _ => bind (ask_ok h) (note_pure _ _)

/-- A sampling fails with its batch. -/
theorem sample_error {failure : Failure} {events : List Event}
    (h : Batch.run source monitor.plugin monitor.watched world =
      (⟨.error failure, events⟩, world')) :
    Runs (sample source) monitor world (.error failure) events monitor world' :=
  bind_get fun _ => bind_error (ask_error h)

/-- A total that matches asks for nothing. -/
theorem compare_of_eq {total : Count} (h : total = monitor.reconciler.ledger.expected) :
    Runs (compare source total) monitor world (.ok ()) [] (monitor.perform [.observe total])
      world := by
  have hverdict : monitor.reconciler.observe total =
      (.synced, monitor.reconciler.move (.observe total)) := by
    simp [Reconciler.observe, Reconciler.move, h]
  exact bind_silent (reconcile_move hverdict) (Runs.pure ())

/-- A total that differs is noted and observed, and what follows is a refresh. -/
theorem compare_of_ne {total : Count} {result : Except Failure Unit} {events : List Event}
    (h : total ≠ monitor.reconciler.ledger.expected)
    (hrefresh : Runs (refresh source .mismatch) (monitor.perform [.observe total]) world result
      events monitor' world') :
    Runs (compare source total) monitor world result
      (compareEvents monitor.reconciler.ledger.expected total
        monitor.reconciler.ledger.mismatches ++ events) monitor' world' := by
  have hverdict : monitor.reconciler.observe total =
      (.mismatched monitor.reconciler.ledger.mismatches.next,
        monitor.reconciler.move (.observe total)) := by
    simp [Reconciler.observe, Reconciler.move, h]
  rw [compareEvents, if_neg h]
  refine bind_silent (reconcile_move hverdict) (bind_get fun _ => ?_)
  have hexpected : (monitor.perform [.observe total]).reconciler.ledger.expected =
      monitor.reconciler.ledger.expected := Reconciler.expected_move_observe ..
  rw [hexpected]
  exact bind (Runs.note _) hrefresh

/-- A report shows what the reconciler holds, and raises its alarm. -/
protected theorem report (aggregate : Aggregate) :
    Runs (report aggregate) monitor world (.ok (monitor.reconciler.report aggregate))
      (monitor.reconciler.report aggregate).alarm monitor world := by
  refine bind_get fun _ => ?_
  simp only [CycleReport.alarm]
  cases (monitor.reconciler.report aggregate).incorrect with
  | none => exact Runs.pure _
  | some incorrect =>
    have hstreak : (monitor.reconciler.report aggregate).phase.streak =
        monitor.reconciler.ledger.mismatches := Ledger.streak_phase _
    rw [hstreak]
    exact note_pure _ _

end Runs

end Step

/-- A cycle is what its steps make of it. -/
theorem cycle_of_runs {σ : Type} {source : Source (StateM σ)} {monitor monitor' : Monitor}
    {world world' : σ} {result : Except Failure CycleReport} {events : List Event}
    (h : Step.Runs (Step.cycle source) monitor world result events monitor' world') :
    monitor.cycle source world = ((⟨result, events⟩, monitor'), world') := by
  change (match (Step.cycle source).exec ⟨monitor, []⟩ world with
    | ((result, turn), world') =>
      (((⟨result, turn.events⟩ : Reply CycleReport), turn.monitor), world')) = _
  rw [h, List.nil_append]

end PollAudit.Monitor
