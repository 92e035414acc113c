import PollAudit.Proofs.Batch.Failure
import PollAudit.Proofs.Cycle.Exchange
import PollAudit.Proofs.Session.Basic

namespace PollAudit

namespace Exchange

private theorem filterMap_tree?_map_tree (replies : List (Reply (List Network))) :
    (replies.map tree).filterMap tree? = replies := by
  rw [List.filterMap_map]
  exact List.filterMap_some

private theorem filterMap_stats?_map_tree (replies : List (Reply (List Network))) :
    (replies.map tree).filterMap stats? = [] := by
  rw [List.filterMap_map, List.filterMap_eq_nil_iff]
  exact fun _ _ => rfl

end Exchange

namespace Session

variable {σ : Type} (s : Session σ)

/-- The requests that the next cycle makes, with their answers, as a log beside the source finds
them. -/
def exchanges : List Exchange :=
  (s.monitor.cycle s.source.logged (s.world, [])).2.2

/-- The answers to the requests for the tree in the next cycle. -/
def trees : List (Reply (List Network)) :=
  s.exchanges.filterMap Exchange.tree?

/-- The answers to the requests for counters in the next cycle. -/
def sent : List Pending :=
  s.exchanges.filterMap Exchange.stats?

/-- A cycle asks for the scheduled tree, for the counters and for the tree anew, in this order. -/
theorem exchanges_eq : s.exchanges = s.monitor.exchanges s.source s.world := by
  rw [exchanges, Monitor.cycle_eq_account]
  simp only [Monitor.account_logged, List.nil_append]

/-- Keeping a log changes neither how a cycle ends nor what it leaves. -/
theorem cycle_logged (log : List Exchange) :
    s.monitor.cycle s.source.logged (s.world, log) =
      ((s.reply, s.next.monitor), s.next.world, log ++ s.exchanges) := by
  rw [reply, next, exchanges_eq, Monitor.cycle_eq_account, Monitor.cycle_eq_account]
  simp only [Monitor.account_logged]

/-- The trees of a cycle are the scheduled one and the forced one. -/
theorem trees_eq : s.trees = s.account.scheduled.toList ++ s.account.forced.toList := by
  rw [trees, exchanges_eq, Monitor.exchanges, List.filterMap_append, List.filterMap_append,
    Exchange.filterMap_tree?_map_tree, Exchange.filterMap_tree?_map_tree, Batch.tree?_exchanges,
    List.append_nil]
  rfl

/-- The requests for counters are those that the monitor sends. -/
theorem sent_eq : s.sent = s.monitor.sent s.source s.world := by
  rw [sent, exchanges_eq, Monitor.exchanges, List.filterMap_append, List.filterMap_append,
    Exchange.filterMap_stats?_map_tree, Exchange.filterMap_stats?_map_tree,
    Batch.stats?_exchanges _ Monitor.length_sent_le, List.nil_append, List.append_nil]

/-- The requests for counters in the next cycle. -/
def statsRequests : List Exchange :=
  Batch.exchanges s.monitor.plugin s.monitor.watched.entries s.sent

/-- A cycle asks for the scheduled tree, for the counters and for the forced tree, in this order. -/
theorem exchanges_eq_account : s.exchanges =
    s.account.scheduled.toList.map .tree ++ s.statsRequests ++
      s.account.forced.toList.map .tree := by
  rw [exchanges_eq, Monitor.exchanges, statsRequests, sent_eq]
  rfl

/-- No request of the next cycle fails. -/
def Answered : Prop :=
  ∀ exchange ∈ s.exchanges, exchange.failure? = none

variable {s}

private theorem failure?_of_mem_trees (h : s.Answered) {reply : Reply (List Network)}
    (hreply : reply ∈ s.trees) : reply.failure? = none := by
  obtain ⟨exchange, hexchange, htree⟩ := List.mem_filterMap.mp hreply
  rw [← Exchange.failure?_of_tree? htree]
  exact h exchange hexchange

private theorem failure?_of_mem_sent (h : s.Answered) {pending : Pending}
    (hpending : pending ∈ s.sent) :
    pending.reply.failure? = none := by
  obtain ⟨exchange, hexchange, hstats⟩ := List.mem_filterMap.mp hpending
  rw [← Exchange.failure?_of_stats? hstats]
  exact h exchange hexchange

/-- The counters of a cycle that did not miss its scheduled tree are settled by the requests for
them. -/
theorem account_batch (h : s.account.scheduled.bind Reply.failure? = none) :
    s.account.batch = some (Batch.settle (.ofSize s.monitor.watched.size) s.sent) := by
  obtain ⟨_, _, hbatch⟩ := Monitor.batch_eq_settle h
  rw [sent_eq]
  exact hbatch

/-- A sampling that found all it asked for has asked for every watched network. -/
theorem length_samples (h : s.account.scheduled.bind Reply.failure? = none)
    {samples : List LiveStats} (hsent : s.sent.map (·.reply.result) = samples.map .ok) :
    samples.length = s.monitor.watched.entries.length := by
  have hfound := Batch.forall_ok_of_map hsent
  have hlengths := congrArg List.length hsent
  rw [List.length_map, List.length_map] at hlengths
  obtain ⟨_, hsends, _⟩ := Monitor.batch_eq_settle h
  rw [← sent_eq] at hsends
  rw [← hlengths]
  rw [hsends] at hfound ⊢
  exact Batch.length_sends (List.forall_mem_nil _) _ _ hfound

/-- What a cycle sums up are the counters that every watched network has brought. -/
theorem exists_samples_of_aggregate {aggregate : Aggregate}
    (h : s.account.aggregate? = some aggregate) :
    ∃ samples : List LiveStats, s.sent.map (·.reply.result) = samples.map .ok ∧
      samples.length = s.monitor.watched.entries.length ∧
      s.account.batch = some (Batch.settle (.ofSize s.monitor.watched.size) s.sent) ∧
      aggregate = Aggregate.ofSamples samples := by
  obtain ⟨samples, hvalue, hsum⟩ := Option.map_eq_some_iff.mp h
  obtain ⟨reply, hreply, hsamples⟩ := Option.bind_eq_some_iff.mp hvalue
  have hscheduled : s.account.scheduled.bind Reply.failure? = none :=
    (Monitor.account_batch_isSome_iff s.source s.monitor s.world).mp
      (Option.isSome_iff_exists.mpr ⟨reply, hreply⟩)
  have hbatch := account_batch hscheduled
  obtain rfl := Option.some.inj (hreply.symm.trans hbatch)
  obtain ⟨found, hfound, hsent⟩ | ⟨failure, herror, _⟩ :=
    Batch.settle_cases (.ofSize s.monitor.watched.size) s.sent
  · rw [Reply.value?, hfound] at hsamples
    obtain rfl : found = samples := Option.some.inj hsamples
    exact ⟨found, hsent, length_samples hscheduled hsent, hbatch, hsum.symm⟩
  · rw [Reply.value?, herror] at hsamples
    cases hsamples

/-- A cycle that found a total has asked for every watched network. -/
theorem length_sent {aggregate : Aggregate} (h : s.account.aggregate? = some aggregate) :
    s.sent.length = s.monitor.watched.entries.length := by
  obtain ⟨samples, hsent, hlength, _⟩ := exists_samples_of_aggregate h
  have hlengths := congrArg List.length hsent
  rw [List.length_map, List.length_map] at hlengths
  exact hlengths.trans hlength

/-- Where no request failed, every watched network has brought its counters, in order, and these
are what the cycle sums up. -/
theorem exists_samples (h : s.Answered) :
    s.account.failure? = none ∧ ∃ samples : List LiveStats,
      s.sent.map (·.reply.result) = samples.map .ok ∧
      samples.length = s.monitor.watched.entries.length ∧
      s.account.aggregate? = some (Aggregate.ofSamples samples) := by
  have hscheduled : s.account.scheduled.bind Reply.failure? = none :=
    Option.bind_eq_none_iff.mpr fun reply hreply =>
      failure?_of_mem_trees h (by simp [trees_eq, hreply])
  have hforced : s.account.forced.bind Reply.failure? = none :=
    Option.bind_eq_none_iff.mpr fun reply hreply =>
      failure?_of_mem_trees h (by simp [trees_eq, hreply])
  have hsent : ∀ pending ∈ s.sent, ∃ stats, pending.reply.result = .ok stats :=
    fun pending hpending => Reply.exists_ok (failure?_of_mem_sent h hpending)
  obtain ⟨samples, hsamples⟩ := Batch.exists_samples hsent
  have hbatch := account_batch hscheduled
  rw [Batch.settle_of_ok hsamples] at hbatch
  refine ⟨?_, samples, hsamples, length_samples hscheduled hsamples, ?_⟩
  · refine Account.failure?_eq_none_iff.mpr ⟨hscheduled, ?_, hforced⟩
    rw [hbatch]
    rfl
  · rw [Account.aggregate?, hbatch]
    rfl

end Session

end PollAudit
