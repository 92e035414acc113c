import PollAudit.Audit.Script
import PollAudit.Proofs.Session.Exchange
import PollAudit.Proofs.Session.Streak

namespace PollAudit

private theorem Reply.eq_of_failure? {α : Type} {reply : Reply α} {failure : Failure}
    (h : reply.failure? = some failure) : reply = ⟨.error failure, reply.events⟩ := by
  rcases reply with ⟨other | a, events⟩
  · obtain rfl : other = failure := Option.some.inj h
    rfl
  · cases h

/-- A failed cycle failed at its scheduled tree, in its sampling or at the tree fetched anew, and
all that was asked for before was answered. -/
theorem Account.failure?_eq_some_iff {account : Account} {failure : Failure} :
    account.failure? = some failure ↔
      account.scheduled.bind Reply.failure? = some failure ∨
      account.scheduled.bind Reply.failure? = none ∧
        (account.batch.bind Reply.failure? = some failure ∨
          account.batch.bind Reply.failure? = none ∧
            account.forced.bind Reply.failure? = some failure) := by
  simp only [failure?, Option.or_eq_some_iff]

namespace Session

variable {σ : Type} {s : Session σ} {failure : Failure}

/-- The next cycle gets as far as its sampling: it is counted and, if a scheduled refresh is due,
its tree was fetched and the count of this tree handed over. Until then it has made the requests in
`requests`, and `r` is its reconciler. -/
def Opens (s : Session σ) (requests : List Exchange) (r : Reconciler) : Prop :=
  let begun := s.monitor.reconciler.begin.2
  if s.monitor.due then
    ∃ networks events, requests = [.tree ⟨.ok networks, events⟩] ∧
      r = (begun.applyExpected (Snapshot.expected ⟨networks⟩ s.monitor.watched)).2
  else requests = [] ∧ r = begun

/-- The next cycle ends with its scheduled request for the tree. No counters were asked for, and
all that it leaves behind is that it is counted. -/
structure EndsAtScheduled (s : Session σ) (failure : Failure) : Prop where
  due : s.monitor.due = true
  requests : ∃ events, s.exchanges = [.tree ⟨.error failure, events⟩]
  unsampled : s.sent = []
  left : s.next.monitor.reconciler.ledger =
    { s.monitor.reconciler.ledger with cycle := s.monitor.reconciler.ledger.cycle + 1 }

/-- The next cycle ends with its sampling, because a request for counters failed. The tree was not
asked for anew, and the samples that arrived leave no trace. -/
structure EndsAtSampling (s : Session σ) (failure : Failure) (requests : List Exchange)
    (r : Reconciler) : Prop where
  opens : s.Opens requests r
  failed : ∃ pending ∈ s.sent, pending.reply.result = .error failure
  requests : s.exchanges = requests ++ s.statsRequests
  left : s.next.monitor.reconciler = r

/-- The next cycle ends with its request for the tree anew, behind samples of every watched network
whose total differs from the expected count. The total is remembered and makes the streak one
longer, and the expected count stays. -/
structure EndsAtForced (s : Session σ) (failure : Failure) (requests : List Exchange)
    (r : Reconciler) (samples : List LiveStats) : Prop where
  opens : s.Opens requests r
  sampled : s.sent.map (·.reply.result) = samples.map .ok
  complete : samples.length = s.monitor.watched.entries.length
  differs : (Aggregate.ofSamples samples).total ≠ r.ledger.expected
  requests : ∃ events, s.exchanges =
    requests ++ s.statsRequests ++ [.tree ⟨.error failure, events⟩]
  left : s.next.monitor.reconciler.ledger =
    { r.ledger with
      lastMismatch := some (Aggregate.ofSamples samples).total
      mismatches := r.ledger.mismatches.next }

/-- Where the scheduled tree was not missed, the cycle opens with the requests and the reconciler
that its account gives. -/
theorem opens_of_scheduled (h : s.account.scheduled.bind Reply.failure? = none) :
    s.Opens (s.account.scheduled.toList.map .tree) s.opened := by
  have hdue := s.account_scheduled_isSome
  rw [Opens, opened_eq, scheduledCount?, Account.scheduledCount?]
  rcases hscheduled : s.account.scheduled with _ | ⟨failure | networks, events⟩
  · rw [hscheduled] at hdue
    rw [← hdue]
    exact ⟨rfl, rfl⟩
  · rw [hscheduled] at h
    cases h
  · rw [hscheduled] at hdue
    rw [← hdue]
    exact ⟨networks, events, rfl, rfl⟩

/-- A cycle that found no total asks for no tree anew. -/
theorem forced_eq_none (h : s.total? = none) : s.account.forced = none := by
  rw [← Option.not_isSome_iff_eq_none]
  intro hforced
  obtain ⟨total, htotal, _⟩ :=
    (Monitor.account_forced_isSome_iff s.source s.monitor s.world).mp hforced
  change s.total? = some total at htotal
  rw [h] at htotal
  cases htotal

/-- What a cycle without a total leaves behind is what it opened with. -/
theorem next_reconciler_of_unsampled (h : s.total? = none) :
    s.next.monitor.reconciler = s.opened := by
  have hforced : s.forcedCount? = none := by
    rw [forcedCount?, Account.forcedCount?, forced_eq_none h]
    rfl
  change s.account.total? = none at h
  change s.account.forcedCount? s.monitor.watched = none at hforced
  rw [next_monitor, Monitor.reconciler_perform, Account.moves, Reconciler.perform_append,
    Account.laterMoves, h, hforced]
  rfl

/-- A cycle whose scheduled tree was missed ends there. -/
theorem endsAtScheduled (h : s.account.scheduled.bind Reply.failure? = some failure) :
    s.EndsAtScheduled failure := by
  obtain ⟨reply, hscheduled, hfailure⟩ := Option.bind_eq_some_iff.mp h
  have hreply := Reply.eq_of_failure? hfailure
  have hdue : s.monitor.due = true := by
    rw [← Monitor.account_scheduled_isSome s.source s.monitor s.world]
    exact Option.isSome_iff_exists.mpr ⟨reply, hscheduled⟩
  have htotal : s.total? = none := by
    rw [total?, Account.total?, Account.aggregate?, account_batch_eq_none h]
    rfl
  have hsent : s.sent = [] := by
    rw [sent_eq]
    rcases htree : s.source.tree s.world with ⟨⟨other | networks, events⟩, world'⟩
    · exact Monitor.sent_of_error hdue htree
    · rw [account, Monitor.account_of_ok hdue htree] at h
      cases h
  refine ⟨hdue, ⟨reply.events, ?_⟩, hsent, ?_⟩
  · rw [exchanges_eq_account, statsRequests, hsent, forced_eq_none htotal, hscheduled, hreply]
    simp [Batch.exchanges]
  · have hcount : s.scheduledCount? = none := by
      rw [scheduledCount?, Account.scheduledCount?, hscheduled, hreply]
      rfl
    rw [next_reconciler_of_unsampled htotal, opened_eq, hcount]
    rfl

/-- A cycle whose samples were missed ends there. -/
theorem endsAtSampling (hscheduled : s.account.scheduled.bind Reply.failure? = none)
    (h : s.account.batch.bind Reply.failure? = some failure) :
    s.EndsAtSampling failure (s.account.scheduled.toList.map .tree) s.opened := by
  have hbatch := account_batch hscheduled
  rw [hbatch, Option.bind_some] at h
  have hreply := Reply.eq_of_failure? h
  have htotal : s.total? = none := by
    rw [total?, Account.total?, Account.aggregate?, hbatch, hreply]
    rfl
  have hfailed : ∃ pending ∈ s.sent, pending.reply.result = .error failure := by
    obtain ⟨samples, hok, _⟩ | ⟨other, herror, hpending⟩ :=
      Batch.settle_cases (.ofSize s.monitor.watched.size) s.sent
    · rw [hreply] at hok
      cases hok
    · rw [hreply] at herror
      obtain rfl : failure = other := Except.error.inj herror
      exact hpending
  refine ⟨opens_of_scheduled hscheduled, hfailed, ?_, next_reconciler_of_unsampled htotal⟩
  rw [exchanges_eq_account, forced_eq_none htotal]
  simp

/-- A cycle whose forced tree was missed ends there. -/
theorem endsAtForced (hscheduled : s.account.scheduled.bind Reply.failure? = none)
    (hsampled : s.account.batch.bind Reply.failure? = none)
    (h : s.account.forced.bind Reply.failure? = some failure) :
    ∃ samples, s.EndsAtForced failure (s.account.scheduled.toList.map .tree) s.opened samples := by
  obtain ⟨reply, hforced, hfailure⟩ := Option.bind_eq_some_iff.mp h
  have hreply := Reply.eq_of_failure? hfailure
  have hbatch := account_batch hscheduled
  obtain ⟨samples, hok, hsent⟩ | ⟨other, herror, _⟩ :=
    Batch.settle_cases (.ofSize s.monitor.watched.size) s.sent
  · have htotal : s.total? = some (Aggregate.ofSamples samples).total := by
      rw [total?, Account.total?, Account.aggregate?, hbatch, Option.bind_some, Reply.value?, hok]
      rfl
    have hdiffers : (Aggregate.ofSamples samples).total ≠ s.opened.ledger.expected := by
      have hasked : s.account.forced.isSome := Option.isSome_iff_exists.mpr ⟨reply, hforced⟩
      obtain ⟨total, hfound, hne⟩ :=
        (Monitor.account_forced_isSome_iff s.source s.monitor s.world).mp hasked
      change s.total? = some total at hfound
      rw [htotal, Option.some.injEq] at hfound
      rw [expected_opened, hfound]
      exact hne
    have hcount : s.forcedCount? = none := by
      rw [forcedCount?, Account.forcedCount?, hforced, hreply]
      rfl
    refine ⟨samples, opens_of_scheduled hscheduled, hsent, length_samples hscheduled hsent,
      hdiffers, ⟨reply.events, ?_⟩, ?_⟩
    · rw [exchanges_eq_account, hforced, ← hreply]
      rfl
    · rw [next_reconciler htotal, hcount]
      exact Reconciler.ledger_move_observe_of_ne hdiffers
  · rw [hbatch, Option.bind_some, Reply.failure?, herror] at hsampled
    cases hsampled

/-- A cycle fails with the failure of one of its requests. -/
theorem failure?_of_reply_eq_error (h : s.reply.result = .error failure) :
    s.account.failure? = some failure := by
  rw [reply_result, Account.result] at h
  split at h
  · rename_i other hother
    rw [hother, Except.error.inj h]
  · cases h

/-- What a failed cycle leaves behind. It ends at the first of its three stages that fails: its
scheduled request for the tree, its sampling, or its request for the tree anew. What the stages
before did stays, and of the failing one at most a total that was already compared. The watched
networks, the plugin and the policy are those of before. -/
theorem next_of_failure (h : s.reply.result = .error failure) :
    s.next.monitor.watched = s.monitor.watched ∧ s.next.monitor.plugin = s.monitor.plugin ∧
      s.next.monitor.reconciler.policy = s.monitor.reconciler.policy ∧
      (s.EndsAtScheduled failure ∨
        ∃ requests r, s.EndsAtSampling failure requests r ∨
          ∃ samples, s.EndsAtForced failure requests r samples) := by
  refine ⟨s.next_watched, s.next_plugin, s.next_policy, ?_⟩
  obtain hscheduled | ⟨hscheduled, hsampling | ⟨hsampled, hforced⟩⟩ :=
    Account.failure?_eq_some_iff.mp (failure?_of_reply_eq_error h)
  · exact .inl (endsAtScheduled hscheduled)
  · exact .inr ⟨_, _, .inl (endsAtSampling hscheduled hsampling)⟩
  · exact .inr ⟨_, _, .inr (endsAtForced hscheduled hsampled hforced)⟩

/-- A network with two enabled points of which the polling engine holds one. The tree can be fetched
once. -/
def severed : ScriptedSource where
  listings := .ok [⟨⟨"a"⟩, "A", "modbus", true⟩]
  trees := [.ok [⟨⟨"a"⟩, "A", "modbus", true, [⟨true, [⟨true⟩, ⟨true⟩]⟩]⟩], .error (.timeout "tree")]
  stats := [("A", [⟨.ok { enabled := true, queue := 1 }, 0⟩])]

/-- The session that starts on such a network. -/
def ofSevered : Session ScriptedSource where
  source := ScriptedSource.source
  monitor := ⟨"modbus", ⟨[⟨⟨"a"⟩, "A"⟩]⟩, ⟨.standard, {}⟩⟩
  world := { severed with listingCalls := 1 }

/-- Its first cycle remembers the total of one under an expected count of two. -/
theorem next_of_severed :
    ofSevered.reply.result = .error (.timeout "tree") ∧
      (∃ requests r samples, ofSevered.EndsAtForced (.timeout "tree") requests r samples) ∧
      ofSevered.next.monitor.reconciler.ledger = ⟨2, some 1, 1, 1⟩ := by
  have hfailed : ofSevered.reply.result = .error (.timeout "tree") := by decide +kernel
  have hsent : ∀ pending ∈ ofSevered.sent, pending.reply.failure? = none := by decide +kernel
  have hsampled : ofSevered.sent.length = 1 := by decide +kernel
  refine ⟨hfailed, ?_, by decide +kernel⟩
  obtain ⟨_, _, _, hscheduled | ⟨requests, r, hsampling | ⟨samples, hforced⟩⟩⟩ :=
    next_of_failure hfailed
  · rw [hscheduled.unsampled] at hsampled
    cases hsampled
  · obtain ⟨pending, hpending, herror⟩ := hsampling.failed
    have hnone := hsent pending hpending
    rw [Reply.failure?, herror] at hnone
    cases hnone
  · exact ⟨requests, r, samples, hforced⟩

end Session

end PollAudit
