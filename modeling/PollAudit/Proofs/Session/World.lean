import PollAudit.Proofs.Session.Basic

namespace PollAudit

namespace Monitor

variable {σ : Type} (source : Source (StateM σ))

/-- From the sampling on, a cycle leaves the world behind its batch, or behind the tree that it
fetched anew there. -/
theorem accountFrom_world (plugin : String) (watched : Watched) (held : Count) (world : σ) :
    let batch := Batch.run source plugin watched world
    let out := accountFrom source plugin watched held world
    out.1.forced = none ∧ out.2 = batch.2 ∨
      ∃ reply, out.1.forced = some reply ∧ source.tree batch.2 = (reply, out.2) := by
  rcases hbatch : Batch.run source plugin watched world with ⟨⟨failure | samples, events⟩, world'⟩
  · rw [accountFrom_of_error hbatch]
    exact .inl ⟨rfl, rfl⟩
  · by_cases htotal : (Aggregate.ofSamples samples).total = held
    · rw [accountFrom_of_eq hbatch htotal]
      exact .inl ⟨rfl, rfl⟩
    · rw [accountFrom_of_ne hbatch htotal]
      exact .inr ⟨_, rfl, rfl⟩

end Monitor

namespace Session

variable {σ : Type} (s : Session σ)

/-- The world that the next cycle samples in, behind its scheduled tree if one is due. -/
def opening : σ :=
  if s.monitor.due then (s.source.tree s.world).2 else s.world

/-- How the batch of the next cycle ends, if the cycle gets as far, and the world behind it. -/
def sampling : Reply (List LiveStats) × σ :=
  Batch.run s.source s.monitor.plugin s.monitor.watched s.opening

/-- A scheduled tree is asked for in the world in which the cycle begins. -/
theorem account_scheduled : s.account.scheduled =
    if s.monitor.due then some (s.source.tree s.world).1 else none := by
  cases hdue : s.monitor.due with
  | false => rw [account, Monitor.account_of_not_due hdue, Monitor.accountFrom_scheduled]; rfl
  | true =>
    rcases htree : s.source.tree s.world with ⟨⟨failure | networks, events⟩, world⟩
    · rw [account, Monitor.account_of_error hdue htree]
      rfl
    · rw [account, Monitor.account_of_ok hdue htree]
      rfl

variable {s}

/-- A cycle that misses its scheduled tree ends there. -/
theorem next_world_of_missed {failure : Failure}
    (h : s.account.scheduled.bind Reply.failure? = some failure) : s.next.world = s.opening := by
  rw [next_world, opening]
  cases hdue : s.monitor.due with
  | false =>
    rw [account_scheduled, hdue] at h
    cases h
  | true =>
    rcases htree : s.source.tree s.world with ⟨⟨other | networks, events⟩, world⟩
    · rw [Monitor.account_of_error hdue htree]
      rfl
    · rw [account_scheduled, hdue, htree] at h
      cases h

/-- Any other cycle has its sampling, and leaves the world behind it or behind the tree that it
fetched anew. -/
theorem next_world_of_sampled (h : s.account.scheduled.bind Reply.failure? = none) :
    s.account.batch = some s.sampling.1 ∧
      (s.account.forced = none ∧ s.next.world = s.sampling.2 ∨
        ∃ reply, s.account.forced = some reply ∧
          s.source.tree s.sampling.2 = (reply, s.next.world)) := by
  rw [next_world, account, sampling, opening]
  cases hdue : s.monitor.due with
  | false =>
    rw [Monitor.account_of_not_due hdue]
    exact ⟨Monitor.accountFrom_batch, Monitor.accountFrom_world ..⟩
  | true =>
    rcases htree : s.source.tree s.world with ⟨⟨failure | networks, events⟩, world⟩
    · rw [account_scheduled, hdue, htree] at h
      cases h
    · rw [Monitor.account_of_ok hdue htree]
      exact ⟨Monitor.accountFrom_batch, Monitor.accountFrom_world ..⟩

end Session

end PollAudit
