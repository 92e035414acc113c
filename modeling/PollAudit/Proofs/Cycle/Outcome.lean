import PollAudit.Proofs.Cycle.Account

namespace PollAudit

namespace Account

/-- The count that the total of the cycle is compared with: the one of the scheduled tree if
there is one, and otherwise the one expected before. -/
def held (account : Account) (monitor : Monitor) : Count :=
  (account.scheduledCount? monitor.watched).getD monitor.expected

/-- What is noted of a request for the tree, where `held` is the count expected so far. -/
def refreshEvents (reason : RefreshReason) (watched : Watched) (held : Count)
    (reply : Reply (List Network)) : List Event :=
  reply.events ++ reply.value?.elim [] fun networks =>
    Monitor.treeEvents reason networks held (Snapshot.expected ⟨networks⟩ watched)

/-- What is noted of a request for the counters of every watched network. -/
def batchEvents (reply : Reply (List LiveStats)) : List Event :=
  reply.events ++ reply.value?.elim [] fun samples =>
    Monitor.sumEvents (Aggregate.ofSamples samples)

/-- What the cycle notes before its sampling. -/
def openingEvents (account : Account) (monitor : Monitor) : List Event :=
  account.scheduled.elim [] (refreshEvents .scheduled monitor.watched monitor.expected)

/-- What the cycle notes from its sampling on, where `monitor` stands as it does there. -/
def laterEvents (account : Account) (monitor : Monitor) : List Event :=
  account.batch.elim [] batchEvents ++
    ((account.total?.elim [] fun total => Monitor.compareEvents monitor.expected total
        monitor.reconciler.ledger.mismatches) ++
      account.forced.elim [] (refreshEvents .mismatch monitor.watched monitor.expected))

/-- What the cycle notes before its report. -/
def events (account : Account) (monitor : Monitor) : List Event :=
  account.openingEvents monitor ++
    account.laterEvents (monitor.perform (account.openingMoves monitor.watched))

/-- A cycle fails exactly if one of its requests does. -/
theorem failure?_eq_none_iff {account : Account} :
    account.failure? = none ↔ account.scheduled.bind Reply.failure? = none ∧
      account.batch.bind Reply.failure? = none ∧ account.forced.bind Reply.failure? = none := by
  simp only [failure?, Option.or_eq_none_iff]

/-- A tree request that did not fail has a count exactly if it was made. -/
theorem countOf?_isSome {watched : Watched} {reply : Option (Reply (List Network))}
    (h : reply.bind Reply.failure? = none) : (countOf? watched reply).isSome = reply.isSome := by
  rcases reply with _ | ⟨failure | networks, events⟩
  · rfl
  · cases h
  · rfl

/-- A scheduled tree that was found has no part in how the cycle ends after it. -/
theorem result_with_scheduled {account : Account} (h : account.scheduled = none)
    (networks : List Network) (events : List Event) (r : Reconciler) :
    ({ account with scheduled := some ⟨.ok networks, events⟩ } : Account).result r =
      account.result r := by
  have hfailure : ({ account with scheduled := some ⟨.ok networks, events⟩ } : Account).failure? =
      account.failure? := by
    rw [failure?, failure?, h]
    rfl
  rw [result, result, hfailure]
  rfl

private theorem laterEvents_with_scheduled (account : Account) (monitor : Monitor)
    (scheduled : Option (Reply (List Network))) :
    ({ account with scheduled } : Account).laterEvents monitor = account.laterEvents monitor := rfl

/-- What follows the scheduled tree does not depend on it. -/
theorem laterMoves_with_scheduled (account : Account) (watched : Watched)
    (scheduled : Option (Reply (List Network))) :
    ({ account with scheduled } : Account).laterMoves watched = account.laterMoves watched := rfl

/-- Without a scheduled tree a cycle only begins. -/
theorem openingMoves_of_none {account : Account} (h : account.scheduled = none)
    (watched : Watched) : account.openingMoves watched = [.begin] := by
  rw [openingMoves, scheduledCount?, h]
  rfl

/-- A tree that was missed is noted by its request alone. -/
theorem refreshEvents_of_error (reason : RefreshReason) (watched : Watched) (held : Count)
    (failure : Failure) (events : List Event) :
    refreshEvents reason watched held ⟨.error failure, events⟩ = events :=
  List.append_nil events

/-- A tree that was found is noted with the count that it gives. -/
theorem refreshEvents_of_ok (reason : RefreshReason) (watched : Watched) (held : Count)
    (networks : List Network) (events : List Event) :
    refreshEvents reason watched held ⟨.ok networks, events⟩ =
      events ++ Monitor.treeEvents reason networks held (Snapshot.expected ⟨networks⟩ watched) :=
  rfl

private theorem openingEvents_of_none {account : Account} (h : account.scheduled = none)
    (monitor : Monitor) : account.openingEvents monitor = [] := by
  rw [openingEvents, h]
  rfl

private theorem openingEvents_of_error (failure : Failure) (events : List Event)
    (monitor : Monitor) :
    ({ scheduled := some ⟨.error failure, events⟩ } : Account).openingEvents monitor = events :=
  refreshEvents_of_error ..

private theorem openingEvents_with_scheduled (account : Account) (monitor : Monitor)
    (networks : List Network) (events : List Event) :
    ({ account with scheduled := some ⟨.ok networks, events⟩ } : Account).openingEvents monitor =
      events ++ Monitor.treeEvents .scheduled networks monitor.expected
        (Snapshot.expected ⟨networks⟩ monitor.watched) := rfl

theorem openingMoves_with_scheduled (account : Account) (watched : Watched)
    (networks : List Network) (events : List Event) :
    ({ account with scheduled := some ⟨.ok networks, events⟩ } : Account).openingMoves watched =
      [.begin] ++ [.apply (Snapshot.expected ⟨networks⟩ watched)] := rfl

private theorem laterMoves_of_batch (samples : List LiveStats) (events : List Event)
    (watched : Watched) :
    ({ batch := some ⟨.ok samples, events⟩ } : Account).laterMoves watched =
      [.observe (Aggregate.ofSamples samples).total] := rfl

private theorem laterMoves_of_forced_error (samples : List LiveStats) (events events' : List Event)
    (failure : Failure) (watched : Watched) :
    ({ batch := some ⟨.ok samples, events⟩, forced := some ⟨.error failure, events'⟩ } :
      Account).laterMoves watched = [.observe (Aggregate.ofSamples samples).total] := rfl

private theorem laterMoves_of_forced_ok (samples : List LiveStats) (events events' : List Event)
    (networks : List Network) (watched : Watched) :
    ({ batch := some ⟨.ok samples, events⟩, forced := some ⟨.ok networks, events'⟩ } :
      Account).laterMoves watched =
      [.observe (Aggregate.ofSamples samples).total] ++
        [.apply (Snapshot.expected ⟨networks⟩ watched)] := rfl

private theorem result_of_missed (failure : Failure) (events : List Event) (r : Reconciler) :
    ({ scheduled := some ⟨.error failure, events⟩ } : Account).result r = .error failure := rfl

private theorem result_of_batch (samples : List LiveStats) (events : List Event) (r : Reconciler) :
    ({ batch := some ⟨.ok samples, events⟩ } : Account).result r =
      .ok (r.report (Aggregate.ofSamples samples)) := rfl

private theorem result_of_forced_error (samples : List LiveStats) (events events' : List Event)
    (failure : Failure) (r : Reconciler) :
    ({ batch := some ⟨.ok samples, events⟩, forced := some ⟨.error failure, events'⟩ } :
      Account).result r = .error failure := rfl

private theorem result_of_forced_ok (samples : List LiveStats) (events events' : List Event)
    (networks : List Network) (r : Reconciler) :
    ({ batch := some ⟨.ok samples, events⟩, forced := some ⟨.ok networks, events'⟩ } :
      Account).result r = .ok (r.report (Aggregate.ofSamples samples)) := rfl

private theorem laterEvents_of_missed (scheduled : Option (Reply (List Network)))
    (monitor : Monitor) :
    ({ scheduled } : Account).laterEvents monitor = [] := rfl

private theorem laterEvents_of_error (failure : Failure) (events : List Event) (monitor : Monitor) :
    ({ batch := some ⟨.error failure, events⟩ } : Account).laterEvents monitor = events := by
  simp [laterEvents, batchEvents, total?, aggregate?, Reply.value?, Except.toOption]

/-- Counters that were found are summed, and their total is compared. -/
theorem laterEvents_of_ok (samples : List LiveStats) (events : List Event)
    (forced : Option (Reply (List Network))) (monitor : Monitor) :
    ({ batch := some ⟨.ok samples, events⟩, forced } : Account).laterEvents monitor =
      (events ++ Monitor.sumEvents (Aggregate.ofSamples samples)) ++
        (Monitor.compareEvents monitor.expected (Aggregate.ofSamples samples).total
            monitor.reconciler.ledger.mismatches ++
          forced.elim [] (refreshEvents .mismatch monitor.watched monitor.expected)) := rfl

end Account

namespace Monitor

variable {σ : Type} (source : Source (StateM σ))

section Guards

variable (plugin : String) (watched : Watched) (held : Count) (monitor : Monitor) (world : σ)

/-- From the sampling on, the tree is asked for exactly when a total was found that differs from
the expected count. -/
theorem accountFrom_forced_isSome_iff :
    (accountFrom source plugin watched held world).1.forced.isSome ↔
      ∃ total, (accountFrom source plugin watched held world).1.total? = some total ∧
        total ≠ held := by
  rcases hbatch : Batch.run source plugin watched world with ⟨⟨failure | samples, events⟩, world'⟩
  · rw [accountFrom_of_error hbatch]
    simp [Account.total?, Account.aggregate?, Reply.value?, Except.toOption]
  · by_cases htotal : (Aggregate.ofSamples samples).total = held
    · rw [accountFrom_of_eq hbatch htotal]
      simp [Account.total?, Account.aggregate?, Reply.value?, Except.toOption, htotal]
    · rw [accountFrom_of_ne hbatch htotal]
      simp [Account.total?, Account.aggregate?, Reply.value?, Except.toOption, htotal]

private theorem accountFrom_batch_isSome :
    (accountFrom source plugin watched held world).1.batch.isSome := by
  rw [accountFrom_batch, Option.isSome_some]

/-- A cycle asks for a scheduled tree exactly when one is due. -/
theorem account_scheduled_isSome :
    (account source monitor world).1.scheduled.isSome = monitor.due := by
  cases hdue : monitor.due with
  | false => rw [account_of_not_due hdue, accountFrom_scheduled, Option.isSome_none]
  | true =>
    rcases htree : source.tree world with ⟨⟨failure | networks, events⟩, world'⟩
    · rw [account_of_error hdue htree, Option.isSome_some]
    · rw [account_of_ok hdue htree, Option.isSome_some]

/-- A cycle samples unless its scheduled tree request failed. -/
theorem account_batch_isSome_iff :
    (account source monitor world).1.batch.isSome ↔
      (account source monitor world).1.scheduled.bind Reply.failure? = none := by
  cases hdue : monitor.due with
  | false =>
    rw [account_of_not_due hdue, accountFrom_scheduled]
    exact iff_of_true (accountFrom_batch_isSome ..) rfl
  | true =>
    rcases htree : source.tree world with ⟨⟨failure | networks, events⟩, world'⟩
    · rw [account_of_error hdue htree]
      exact iff_of_false nofun nofun
    · rw [account_of_ok hdue htree]
      exact iff_of_true (accountFrom_batch_isSome ..) rfl

/-- A cycle asks for the tree anew exactly when its total differs from the count that it is
compared with. -/
theorem account_forced_isSome_iff :
    (account source monitor world).1.forced.isSome ↔
      ∃ total, (account source monitor world).1.total? = some total ∧
        total ≠ (account source monitor world).1.held monitor := by
  cases hdue : monitor.due with
  | false =>
    rw [account_of_not_due hdue, Account.held, Account.scheduledCount?, accountFrom_scheduled]
    exact accountFrom_forced_isSome_iff ..
  | true =>
    rcases htree : source.tree world with ⟨⟨failure | networks, events⟩, world'⟩
    · rw [account_of_error hdue htree]
      exact iff_of_false nofun nofun
    · rw [account_of_ok hdue htree]
      exact accountFrom_forced_isSome_iff ..

end Guards

section Cycle

variable (monitor : Monitor) (world : σ)

variable {source} in
/-- The count of a forced tree is compared with the one that the total was compared with. -/
theorem runs_refresh_of_observed {networks : List Network} {events : List Event} {world' : σ}
    (total : Count) (h : source.tree world = (⟨.ok networks, events⟩, world')) :
    let count := Snapshot.expected ⟨networks⟩ monitor.watched
    let observed := monitor.perform [.observe total]
    Step.Runs (Step.refresh source .mismatch) observed world (.ok ())
      (events ++ treeEvents .mismatch networks monitor.expected count)
      (observed.perform [.apply count]) world' := by
  intro count observed
  have hexpected : monitor.expected = observed.expected :=
    (Reconciler.expected_move_observe ..).symm
  rw [hexpected]
  exact .refresh_ok h

/-- From the sampling on, a cycle ends and notes what its account says. -/
theorem runs_accountFrom :
    let out := accountFrom source monitor.plugin monitor.watched monitor.expected world
    let monitor' := monitor.perform (out.1.laterMoves monitor.watched)
    let result := out.1.result monitor'.reconciler
    Step.Runs (Step.later source) monitor world result
      (out.1.laterEvents monitor ++ alarm result) monitor' out.2 := by
  rcases hbatch : Batch.run source monitor.plugin monitor.watched world with
    ⟨⟨failure | samples, events⟩, world'⟩
  · rw [accountFrom_of_error hbatch]
    refine (Step.Runs.bind_error (.sample_error hbatch)).of_eq ?_
    exact ((List.append_nil _).trans (Account.laterEvents_of_error ..)).symm
  · by_cases htotal : (Aggregate.ofSamples samples).total = monitor.expected
    · rw [accountFrom_of_eq hbatch htotal]
      simp only [Account.result_of_batch, Account.laterMoves_of_batch, Account.laterEvents_of_ok,
        alarm_ok, compareEvents, if_pos htotal, Option.elim_none, List.append_nil]
      exact .bind (.sample_ok hbatch) (.bind_silent (.compare_of_eq htotal) (.report _))
    · rw [accountFrom_of_ne hbatch htotal]
      rcases htree : source.tree world' with ⟨⟨failure | networks, events'⟩, world''⟩
      · simp only [Account.result_of_forced_error, Account.laterMoves_of_forced_error,
          Account.laterEvents_of_ok, Account.refreshEvents_of_error, alarm_error, Option.elim_some,
          List.append_nil]
        exact .bind (.sample_ok hbatch)
          (.bind_error (.compare_of_ne htotal (.refresh_error htree)))
      · simp only [Account.result_of_forced_ok, Account.laterMoves_of_forced_ok,
          ← perform_perform, Account.laterEvents_of_ok, Account.refreshEvents_of_ok, alarm_ok,
          Option.elim_some]
        have hrefresh := runs_refresh_of_observed monitor world'
          (Aggregate.ofSamples samples).total htree
        refine Step.Runs.of_eq ?_ (List.append_assoc _ _ _).symm
        exact .bind (.sample_ok hbatch) (.bind (.compare_of_ne htotal hrefresh) (.report _))

/-- A cycle ends the way its account says: its result, what it notes, the monitor after it and the
world after it are functions of the answers to its requests. -/
theorem cycle_eq_account :
    let out := account source monitor world
    let monitor' := monitor.perform (out.1.moves monitor.watched)
    let result := out.1.result monitor'.reconciler
    monitor.cycle source world =
      ((⟨result, out.1.events monitor ++ alarm result⟩, monitor'), out.2) := by
  apply cycle_of_runs
  rw [Step.cycle_eq_later]
  refine .bind_silent Step.Runs.reconcile_begin ?_
  simp only [Account.moves, Account.events, ← perform_perform]
  cases hdue : monitor.due with
  | false =>
    rw [account_of_not_due hdue, if_neg (by simpa [due] using hdue),
      Account.openingMoves_of_none accountFrom_scheduled,
      Account.openingEvents_of_none accountFrom_scheduled]
    exact runs_accountFrom source _ world
  | true =>
    rw [if_pos (by simpa [due] using hdue)]
    rcases htree : source.tree world with ⟨⟨failure | networks, events⟩, world'⟩
    · rw [account_of_error hdue htree]
      simp only [Account.openingEvents_of_error, Account.laterEvents_of_missed,
        Account.result_of_missed, alarm_error, List.append_nil]
      exact .bind_error (.refresh_error htree)
    · let opened := (monitor.perform [.begin]).perform
        [.apply (Snapshot.expected ⟨networks⟩ monitor.watched)]
      have hexpected : opened.expected = Snapshot.expected ⟨networks⟩ monitor.watched := by
        simp [opened, expected]
      have hlater := runs_accountFrom source opened world'
      simp only [hexpected, opened, plugin_perform, watched_perform] at hlater
      rw [account_of_ok hdue htree]
      simp only [Account.result_with_scheduled accountFrom_scheduled,
        Account.laterMoves_with_scheduled, Account.openingMoves_with_scheduled,
        Account.laterEvents_with_scheduled, Account.openingEvents_with_scheduled,
        ← perform_perform]
      refine Step.Runs.of_eq ?_ (List.append_assoc _ _ _).symm
      exact .bind (.refresh_ok htree) hlater

end Cycle

end Monitor

end PollAudit
