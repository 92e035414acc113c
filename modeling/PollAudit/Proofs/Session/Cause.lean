import PollAudit.Proofs.Session.Trace
import PollAudit.Proofs.Session.World

namespace PollAudit

variable {σ : Type}

/-- Every answer of a source is as `p` says of it and of the request that it answers. -/
structure Source.Always (source : Source (StateM σ)) (p : Exchange → Prop) : Prop where
  listings : ∀ world, p (.listings (source.listings world).1)
  tree : ∀ world, p (.tree (source.tree world).1)
  stats : ∀ plugin network world, p (.stats plugin network (source.stats plugin network world).1)

/-- If all exchanges with a source have a property, they have every weaker one. -/
theorem Source.Always.imp {source : Source (StateM σ)} {p q : Exchange → Prop} (h : source.Always p)
    (hpq : ∀ exchange, p exchange → q exchange) : source.Always q where
  listings world := hpq _ (h.listings world)
  tree world := hpq _ (h.tree world)
  stats plugin network world := hpq _ (h.stats plugin network world)

private theorem Batch.forall_mem_exchanges {source : Source (StateM σ)} {p : Exchange → Prop}
    (h : source.Always p) {plugin : String} {gathering : Gathering} (before : List Pending)
    (entries : List Watch) (world : σ) :
    ∀ exchange ∈ exchanges plugin entries
      (sends source plugin gathering before entries world).1, p exchange := by
  induction entries generalizing before world with
  | nil => exact List.forall_mem_nil p
  | cons watch rest ih =>
    rcases hstats : source.stats plugin watch.name world with ⟨pending, world'⟩
    have hfirst : p (.stats plugin watch.name pending) := by
      have hanswer := h.stats plugin watch.name world
      rwa [hstats] at hanswer
    by_cases hnone : failure? gathering ((before ++ [pending]).map Slot.ofPending) = none
    · rw [sends_cons_of_none hstats hnone]
      exact List.forall_mem_cons.mpr ⟨hfirst, ih (before ++ [pending]) world'⟩
    · rw [sends_cons_of_some hstats hnone]
      refine List.forall_mem_cons.mpr ⟨hfirst, ?_⟩
      rw [List.zipWith_nil_right]
      exact List.forall_mem_nil p

/-- The requests for counters in a cycle are those of a batch, if there are any. -/
theorem Monitor.sent_cases (source : Source (StateM σ)) (monitor : Monitor) (world : σ) :
    monitor.sent source world = [] ∨ ∃ before, monitor.sent source world =
      (Batch.sends source monitor.plugin (.ofSize monitor.watched.size) []
        monitor.watched.entries before).1 := by
  cases hdue : monitor.due with
  | false => exact .inr ⟨world, sent_of_not_due hdue⟩
  | true =>
    rcases htree : source.tree world with ⟨⟨failure | networks, events⟩, world'⟩
    · exact .inl (sent_of_error hdue htree)
    · exact .inr ⟨world', sent_of_ok hdue htree⟩

namespace Session

variable {s : Session σ}

private theorem scheduled_of_forced (h : s.account.forced.isSome) :
    s.account.scheduled.bind Reply.failure? = none := by
  obtain ⟨total, htotal, _⟩ := forced_isSome_iff.mp h
  obtain ⟨aggregate, haggregate, _⟩ := Option.map_eq_some_iff.mp htotal
  obtain ⟨samples, hvalue, _⟩ := Option.map_eq_some_iff.mp haggregate
  obtain ⟨reply, hreply, _⟩ := Option.bind_eq_some_iff.mp hvalue
  exact (Monitor.account_batch_isSome_iff s.source s.monitor s.world).mp
    (Option.isSome_iff_exists.mpr ⟨reply, hreply⟩)

/-- What holds of every answer of a source holds of the requests of a cycle. -/
theorem forall_mem_exchanges {p : Exchange → Prop} (h : s.source.Always p) :
    ∀ exchange ∈ s.exchanges, p exchange := by
  have hscheduled : ∀ reply ∈ s.account.scheduled, p (.tree reply) := by
    intro reply hreply
    rw [account_scheduled] at hreply
    split at hreply
    · cases hreply
      exact h.tree s.world
    · cases hreply
  have hstats : ∀ exchange ∈ s.statsRequests, p exchange := by
    rw [statsRequests, sent_eq]
    obtain hnone | ⟨before, hsends⟩ := Monitor.sent_cases s.source s.monitor s.world
    · rw [hnone, Batch.exchanges, List.zipWith_nil_right]
      exact List.forall_mem_nil p
    · rw [hsends]
      exact Batch.forall_mem_exchanges h [] _ before
  have hforced : ∀ reply ∈ s.account.forced, p (.tree reply) := by
    intro reply hreply
    obtain ⟨_, ⟨hnone, _⟩ | ⟨found, hfound, htree⟩⟩ :=
      next_world_of_sampled (scheduled_of_forced (Option.isSome_iff_exists.mpr ⟨reply, hreply⟩))
    · rw [hnone] at hreply
      cases hreply
    · obtain rfl : found = reply := Option.some.inj (hfound.symm.trans hreply)
      have hanswer := h.tree s.sampling.2
      rwa [htree] at hanswer
  rw [exchanges_eq_account]
  simp only [List.forall_mem_append, List.forall_mem_map, Option.mem_toList]
  exact ⟨⟨hscheduled, hstats⟩, hforced⟩

/-- A start fails only of what its request failed of. -/
theorem failure_of_start {source : Source (StateM σ)} {p : Failure → Prop}
    (h : source.Always fun exchange => ∀ failure, exchange.failure? = some failure → p failure)
    {plugin : String} {policy : Policy} {world : σ} {failure : Failure}
    (hstart : (Monitor.start source plugin policy world).1.result = .error failure) :
    p failure := by
  rcases hlistings : source.listings world with ⟨⟨other | listings, events⟩, world'⟩
  · rw [Monitor.start_of_error hlistings] at hstart
    refine h.listings world failure ?_
    rw [hlistings]
    exact congrArg some (Except.error.inj hstart)
  · rw [Monitor.start_of_ok hlistings] at hstart
    cases hstart

/-- A cycle fails only of what one of its requests failed of. -/
theorem failure_of_reply {p : Failure → Prop}
    (h : s.source.Always fun exchange => ∀ failure, exchange.failure? = some failure → p failure)
    {failure : Failure} (hreply : s.reply.result = .error failure) : p failure := by
  obtain ⟨before, exchange, later, hexchanges, hfailure, _⟩ := stopsAt_of_error hreply
  refine forall_mem_exchanges h exchange ?_ failure hfailure
  rw [hexchanges]
  exact List.mem_append_right before List.mem_cons_self

end Session

end PollAudit
