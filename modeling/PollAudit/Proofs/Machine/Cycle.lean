import PollAudit.Proofs.Cycle.Outcome
import PollAudit.Proofs.Machine.Basic

namespace PollAudit

/-- What the machine is told of a tree: its expected count, or what the request failed of. -/
def Reply.count (watched : Watched) (reply : Reply (List Network)) : Except Failure Count :=
  reply.result.map fun networks => Snapshot.expected ⟨networks⟩ watched

/-- What the machine is told of a sampling: its reading, or what the batch failed of. -/
def Reply.reading (reply : Reply (List LiveStats)) : Except Failure Reading :=
  reply.result.map Reading.ofSamples

namespace Machine

open Monitor

variable {σ : Type} {source : Source (StateM σ)} {figures : Figures} {world : σ}
  {account : Account} {trees samplings : Nat}

/-- From the sampling on, the machine ends a cycle the way the monitor does. -/
theorem finish_eq {r : Reconciler} {plugin : String} {watched : Watched}
    (haccount : (accountFrom source plugin watched r.ledger.expected world).1 = account)
    (hforced : ∀ reply ∈ account.forced, figures.counts trees = reply.count watched)
    (hbatch : ∀ reply ∈ account.batch, figures.readings samplings = reply.reading) :
    finish figures ⟨r, trees, samplings⟩ =
      (account.result (r.perform (account.laterMoves watched)),
        ⟨r.perform (account.laterMoves watched), trees + account.forced.toList.length,
          samplings + 1⟩) := by
  rcases hrun : Batch.run source plugin watched world with ⟨⟨failure | samples, events⟩, world'⟩
  · rw [accountFrom_of_error hrun] at haccount
    subst haccount
    rw [finish_of_error (hbatch _ rfl)]
    rfl
  · by_cases htotal : (Aggregate.ofSamples samples).total = r.ledger.expected
    · rw [accountFrom_of_eq hrun htotal] at haccount
      subst haccount
      rw [finish_of_eq (hbatch _ rfl) (by rw [Reading.total_ofSamples, htotal]),
        Reading.total_ofSamples, Reconciler.report_ofSamples]
      rfl
    · rw [accountFrom_of_ne hrun htotal] at haccount
      subst haccount
      rw [finish_of_ne (hbatch _ rfl) (by rwa [Reading.total_ofSamples]), Reading.total_ofSamples]
      rcases htree : source.tree world' with ⟨⟨failure | networks, events'⟩, world''⟩
      · rw [htree] at hforced
        rw [refresh_of_error (hforced _ rfl)]
        rfl
      · rw [htree] at hforced
        rw [refresh_of_ok (hforced _ rfl)]
        simp only [Reconciler.report_ofSamples]
        rfl

/-- The machine ends every cycle the way the monitor does, and consumes one count for each tree
that was asked for and one reading for each sampling. -/
theorem cycle_eq {monitor : Monitor} (haccount : (monitor.account source world).1 = account)
    (htrees : ∀ k reply, (account.scheduled.toList ++ account.forced.toList)[k]? = some reply →
      figures.counts (trees + k) = reply.count monitor.watched)
    (hbatch : ∀ reply ∈ account.batch, figures.readings samplings = reply.reading) :
    cycle figures ⟨monitor.reconciler, trees, samplings⟩ =
      (account.result (monitor.reconciler.perform (account.moves monitor.watched)),
        ⟨monitor.reconciler.perform (account.moves monitor.watched),
          trees + (account.scheduled.toList ++ account.forced.toList).length,
          samplings + account.batch.toList.length⟩) := by
  cases hdue : monitor.due with
  | false =>
    rw [account_of_not_due hdue] at haccount
    have hscheduled : account.scheduled = none := by
      rw [← haccount, accountFrom_scheduled]
    have hsampled : account.batch.toList.length = 1 := by
      rw [← haccount, accountFrom_batch, Option.toList_some, List.length_singleton]
    have hforced : ∀ reply ∈ account.forced,
        figures.counts trees = reply.count monitor.watched := by
      intro reply hreply
      exact htrees 0 reply (by rw [hscheduled, Option.mem_def.mp hreply]; rfl)
    have hfinish := finish_eq (r := monitor.reconciler.move .begin) haccount hforced hbatch
    rw [cycle_of_not_due hdue, hfinish, hsampled, Account.moves,
      Account.openingMoves_of_none hscheduled, hscheduled]
    rfl
  | true =>
    rcases htree : source.tree world with ⟨⟨failure | networks, events⟩, world'⟩
    · rw [account_of_error hdue htree] at haccount
      subst haccount
      have hfirst : figures.counts trees = .error failure := htrees 0 _ rfl
      rw [cycle_of_due hdue, refresh_of_error hfirst]
      rfl
    · rw [account_of_ok hdue htree] at haccount
      dsimp only at haccount
      generalize hlater : (accountFrom source monitor.plugin monitor.watched
        (Snapshot.expected ⟨networks⟩ monitor.watched) world').1 = later at haccount
      subst haccount
      have hscheduled : later.scheduled = none := by
        rw [← hlater, accountFrom_scheduled]
      have hsampled : later.batch.toList.length = 1 := by
        rw [← hlater, accountFrom_batch, Option.toList_some, List.length_singleton]
      have hfirst : figures.counts trees = .ok (Snapshot.expected ⟨networks⟩ monitor.watched) :=
        htrees 0 _ rfl
      rw [cycle_of_due hdue, refresh_of_ok hfirst]
      generalize hopened : (monitor.reconciler.move .begin).move
        (.apply (Snapshot.expected ⟨networks⟩ monitor.watched)) = opened
      have hexpected : opened.ledger.expected = Snapshot.expected ⟨networks⟩ monitor.watched := by
        rw [← hopened, Reconciler.expected_move_apply]
      -- What follows compares with the count that the scheduled tree has just brought.
      rw [← hexpected] at hlater
      have hforced : ∀ reply ∈ later.forced,
          figures.counts (trees + 1) = reply.count monitor.watched := by
        intro reply hreply
        exact htrees 1 reply (by rw [Option.mem_def.mp hreply]; rfl)
      have hfinish := finish_eq hlater hforced hbatch
      have hperform : monitor.reconciler.perform
          (({ later with scheduled := some ⟨.ok networks, events⟩ } : Account).moves
            monitor.watched) = opened.perform (later.laterMoves monitor.watched) := by
        rw [Account.moves, Account.openingMoves_with_scheduled,
          Account.laterMoves_with_scheduled, ← hopened]
        simp only [Reconciler.perform_append, Reconciler.perform_cons, Reconciler.perform_nil]
      simp only [hperform, Account.result_with_scheduled hscheduled, hfinish, hsampled,
        Option.toList_some, List.singleton_append, List.length_cons, Nat.add_assoc,
        Nat.add_comm 1]

end Machine

end PollAudit
