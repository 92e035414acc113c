import PollAudit.Proofs.Cycle.Step

namespace PollAudit

/-- What a successful request brought. -/
def Reply.value? {α : Type} (reply : Reply α) : Option α :=
  reply.result.toOption

/-- What a failed request failed of. -/
def Reply.failure? {α : Type} (reply : Reply α) : Option Failure :=
  match reply.result with
  | .ok _ => none
  | .error failure => some failure

/-- A reply without a failure brings something. -/
theorem Reply.exists_ok {α : Type} {reply : Reply α} (h : reply.failure? = none) :
    ∃ a, reply.result = .ok a := by
  unfold failure? at h
  split at h
  · rename_i a hresult
    exact ⟨a, hresult⟩
  · cases h

/-- The answers to the requests of one cycle: the scheduled tree, the batch of counters and the
tree fetched anew. A request that was not made has none. -/
structure Account where
  scheduled : Option (Reply (List Network)) := none
  batch : Option (Reply (List LiveStats)) := none
  forced : Option (Reply (List Network)) := none

namespace Account

/-- The expected count of a tree, if there was a tree to count. -/
def countOf? (watched : Watched) (reply : Option (Reply (List Network))) : Option Count :=
  (reply.bind Reply.value?).map fun networks => Snapshot.expected ⟨networks⟩ watched

/-- The count of the scheduled tree. -/
def scheduledCount? (account : Account) (watched : Watched) : Option Count :=
  countOf? watched account.scheduled

/-- The count of the tree fetched anew. -/
def forcedCount? (account : Account) (watched : Watched) : Option Count :=
  countOf? watched account.forced

/-- The counters of the cycle, summed. -/
def aggregate? (account : Account) : Option Aggregate :=
  (account.batch.bind Reply.value?).map Aggregate.ofSamples

/-- The total of the counters. -/
def total? (account : Account) : Option Count :=
  account.aggregate?.map Aggregate.total

/-- The failure that ended the cycle. -/
def failure? (account : Account) : Option Failure :=
  (account.scheduled.bind Reply.failure?).or
    ((account.batch.bind Reply.failure?).or (account.forced.bind Reply.failure?))

/-- What the cycle did to the reconciler before its sampling. -/
def openingMoves (account : Account) (watched : Watched) : List Move :=
  .begin :: ((account.scheduledCount? watched).map .apply).toList

/-- What the cycle did to the reconciler from its sampling on. -/
def laterMoves (account : Account) (watched : Watched) : List Move :=
  (account.total?.map .observe).toList ++ ((account.forcedCount? watched).map .apply).toList

/-- What the cycle did to the reconciler. -/
def moves (account : Account) (watched : Watched) : List Move :=
  account.openingMoves watched ++ account.laterMoves watched

/-- How the cycle ended, where `r` is the reconciler after it. -/
def result (account : Account) (r : Reconciler) : Except Failure CycleReport :=
  match account.failure? with
  | some failure => .error failure
  | none => .ok (r.report (account.aggregate?.getD {}))

end Account

namespace Monitor

variable {σ : Type} (source : Source (StateM σ))

/-- The next cycle starts with a scheduled refresh. -/
def due (monitor : Monitor) : Bool := monitor.reconciler.begin.1

/-- The expected count as it stands. -/
def expected (monitor : Monitor) : Count := monitor.reconciler.ledger.expected

/-- The answers from the sampling on, where `held` is what the total is compared with, and the
world behind them. -/
def accountFrom (plugin : String) (watched : Watched) (held : Count) (world : σ) : Account × σ :=
  match Batch.run source plugin watched world with
  | (⟨.error failure, events⟩, world) => ({ batch := some ⟨.error failure, events⟩ }, world)
  | (⟨.ok samples, events⟩, world) =>
    if (Aggregate.ofSamples samples).total = held then
      ({ batch := some ⟨.ok samples, events⟩ }, world)
    else
      let (forced, world) := source.tree world
      ({ batch := some ⟨.ok samples, events⟩, forced := some forced }, world)

/-- The answers to the requests of the next cycle, and the world behind them. -/
def account (monitor : Monitor) (world : σ) : Account × σ :=
  if monitor.due then
    match source.tree world with
    | (⟨.error failure, events⟩, world) => ({ scheduled := some ⟨.error failure, events⟩ }, world)
    | (⟨.ok networks, events⟩, world) =>
      let (account, world) := accountFrom source monitor.plugin monitor.watched
        (Snapshot.expected ⟨networks⟩ monitor.watched) world
      ({ account with scheduled := some ⟨.ok networks, events⟩ }, world)
  else
    accountFrom source monitor.plugin monitor.watched monitor.expected world

section Equations

variable {source} {plugin : String} {watched : Watched} {held : Count} {monitor : Monitor}
  {world world' : σ} {failure : Failure} {samples : List LiveStats} {networks : List Network}
  {events : List Event}

/-- A failed sampling is all that there is to account for. -/
theorem accountFrom_of_error
    (h : Batch.run source plugin watched world = (⟨.error failure, events⟩, world')) :
    accountFrom source plugin watched held world =
      ({ batch := some ⟨.error failure, events⟩ }, world') := by
  rw [accountFrom, h]

/-- A total that matches needs no other tree. -/
theorem accountFrom_of_eq
    (h : Batch.run source plugin watched world = (⟨.ok samples, events⟩, world'))
    (htotal : (Aggregate.ofSamples samples).total = held) :
    accountFrom source plugin watched held world =
      ({ batch := some ⟨.ok samples, events⟩ }, world') := by
  rw [accountFrom, h]
  exact if_pos htotal

/-- A total that does not match makes the cycle ask for the tree. -/
theorem accountFrom_of_ne
    (h : Batch.run source plugin watched world = (⟨.ok samples, events⟩, world'))
    (htotal : (Aggregate.ofSamples samples).total ≠ held) :
    accountFrom source plugin watched held world =
      ({ batch := some ⟨.ok samples, events⟩, forced := some (source.tree world').1 },
        (source.tree world').2) := by
  rw [accountFrom, h]
  exact if_neg htotal

/-- Where no tree is due the cycle begins with its samples. -/
theorem account_of_not_due (h : monitor.due = false) :
    account source monitor world =
      accountFrom source monitor.plugin monitor.watched monitor.expected world := by
  rw [account, if_neg (by simp [h])]

/-- A failed scheduled tree is all that there is to account for. -/
theorem account_of_error (hdue : monitor.due = true)
    (h : source.tree world = (⟨.error failure, events⟩, world')) :
    account source monitor world =
      ({ scheduled := some ⟨.error failure, events⟩ }, world') := by
  rw [account, if_pos hdue, h]

/-- A scheduled tree gives the count that the samples are compared with. -/
theorem account_of_ok (hdue : monitor.due = true)
    (h : source.tree world = (⟨.ok networks, events⟩, world')) :
    account source monitor world =
      let out := accountFrom source monitor.plugin monitor.watched
        (Snapshot.expected ⟨networks⟩ monitor.watched) world'
      ({ out.1 with scheduled := some ⟨.ok networks, events⟩ }, out.2) := by
  rw [account, if_pos hdue, h]

/-- From the sampling on no tree is scheduled. -/
theorem accountFrom_scheduled :
    (accountFrom source plugin watched held world).1.scheduled = none := by
  rcases hbatch : Batch.run source plugin watched world with ⟨⟨failure | samples, events⟩, world'⟩
  · rw [accountFrom_of_error hbatch]
  · by_cases htotal : (Aggregate.ofSamples samples).total = held
    · rw [accountFrom_of_eq hbatch htotal]
    · rw [accountFrom_of_ne hbatch htotal]

/-- The samples come from one batch over the watched networks. -/
theorem accountFrom_batch :
    (accountFrom source plugin watched held world).1.batch =
      some (Batch.run source plugin watched world).1 := by
  rcases hbatch : Batch.run source plugin watched world with ⟨⟨failure | samples, events⟩, world'⟩
  · rw [accountFrom_of_error hbatch]
  · by_cases htotal : (Aggregate.ofSamples samples).total = held
    · rw [accountFrom_of_eq hbatch htotal]
    · rw [accountFrom_of_ne hbatch htotal]

end Equations

end Monitor

end PollAudit
