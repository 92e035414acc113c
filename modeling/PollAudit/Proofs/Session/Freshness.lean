import PollAudit.Audit.Script
import PollAudit.Proofs.Machine.Run
import PollAudit.Proofs.Session.Streak

namespace PollAudit

/-- Some cycles lie between two scheduled trees. -/
theorem Policy.refreshEvery_pos (policy : Policy) : 0 < policy.refreshEvery.toNat := by
  have hne := policy.refreshEvery_ne_zero
  rw [ne_eq, ← UInt64.toNat_inj] at hne
  exact Nat.pos_of_ne_zero hne

namespace Session

variable {σ : Type} (s : Session σ)

/-- The trees that the next cycle fetches, in order. -/
def fetched : List (List Network) :=
  s.trees.filterMap Reply.value?

/-- The tree fetched last in the first `n` cycles, if there was one. -/
def latestTree? (n : Nat) : Option (List Network) :=
  (s.during fetched n).getLast?

/-- The tree fetched last in the cycles up to `k` is `networks`, and cycle `i` fetched it. -/
structure FetchedIn (i k : Nat) (networks : List Network) : Prop where
  le : i ≤ k
  last : (s.after i).fetched.getLast? = some networks
  later : ∀ j, i < j → j ≤ k → (s.after j).fetched = []

/-- The count of a tree is handed over if the tree was fetched. -/
theorem filterMap_applied?_countOf? (watched : Watched) (reply : Option (Reply (List Network))) :
    (((Account.countOf? watched reply).map Move.apply).toList).filterMap Move.applied? =
      (reply.toList.filterMap Reply.value?).map fun networks =>
        Snapshot.expected ⟨networks⟩ watched := by
  rcases reply with _ | ⟨failure | networks, events⟩ <;> rfl

/-- A cycle hands over the counts of the trees that it fetches, and no others. -/
theorem filterMap_applied?_moves :
    (s.account.moves s.monitor.watched).filterMap Move.applied? =
      s.fetched.map fun networks => Snapshot.expected ⟨networks⟩ s.monitor.watched := by
  have htotal : ((s.account.total?.map Move.observe).toList).filterMap Move.applied? = [] := by
    cases s.account.total? <;> rfl
  have hopening : (s.account.openingMoves s.monitor.watched).filterMap Move.applied? =
      (s.account.scheduled.toList.filterMap Reply.value?).map fun networks =>
        Snapshot.expected ⟨networks⟩ s.monitor.watched :=
    filterMap_applied?_countOf? s.monitor.watched s.account.scheduled
  rw [Account.moves, List.filterMap_append, hopening, Account.laterMoves, List.filterMap_append,
    htotal, Account.forcedCount?, filterMap_applied?_countOf?, List.nil_append, fetched, trees_eq,
    List.filterMap_append, List.map_append]

/-- After any cycle, failed or not, the expected count is the one of the tree it fetched last, and
the one of before if it fetched none. -/
theorem expected_next_eq_fetched : s.next.monitor.expected =
    (s.fetched.getLast?.map fun networks => Snapshot.expected ⟨networks⟩ s.monitor.watched).getD
      s.monitor.expected := by
  rw [Monitor.expected, next_monitor, Monitor.reconciler_perform,
    Reconciler.expected_perform_eq_getLast?, filterMap_applied?_moves, List.getLast?_map]
  rfl

/-- So it is after any run. -/
theorem expected_after (n : Nat) : (s.after n).monitor.expected =
    ((s.latestTree? n).map fun networks => Snapshot.expected ⟨networks⟩ s.monitor.watched).getD
      s.monitor.expected := by
  induction n with
  | zero => rfl
  | succ n ih =>
    rw [after_succ, expected_next_eq_fetched, ih, after_watched, latestTree?, latestTree?,
      during_succ, List.getLast?_append]
    cases (s.after n).fetched.getLast? with
    | none => rfl
    | some networks => rfl

/-- A cycle is counted once, whether it succeeds or not. -/
theorem cycle_next :
    s.next.monitor.reconciler.ledger.cycle = s.monitor.reconciler.ledger.cycle + 1 := by
  have hcounts : ∀ move ∈ (s.scheduledCount?.map Move.apply).toList ++
      s.account.laterMoves s.monitor.watched, move.isBegin = false := by
    intro move hmove
    simp only [Account.laterMoves, List.mem_append, Option.mem_toList,
      Option.map_eq_some_iff] at hmove
    obtain ⟨_, _, rfl⟩ | ⟨_, _, rfl⟩ | ⟨_, _, rfl⟩ := hmove <;> rfl
  have hperform : s.next.monitor.reconciler = (s.monitor.reconciler.move .begin).perform
      ((s.scheduledCount?.map Move.apply).toList ++ s.account.laterMoves s.monitor.watched) := by
    rw [next_monitor]
    rfl
  rw [hperform, Reconciler.cycle_perform_of_not_begin _ hcounts]
  rfl

section Fresh

variable {s} (hfresh : s.monitor.reconciler.ledger.cycle = 0)

include hfresh

/-- Cycles are counted, failed ones too. -/
theorem cycle_after (n : Nat) :
    (s.after n).monitor.reconciler.ledger.cycle = UInt64.ofNat n := by
  induction n with
  | zero => exact hfresh
  | succ n ih =>
    rw [after_succ, cycle_next, ih]
    simp

/-- A scheduled refresh is due in every cycle whose index the refresh interval divides. The index
starts anew where it does not fit a count any more. -/
theorem due_after_iff (n : Nat) : (s.after n).monitor.due = true ↔
    n % 2 ^ 64 % s.monitor.reconciler.policy.refreshEvery.toNat = 0 := by
  rw [Monitor.due, Reconciler.begin, cycle_after hfresh, after_policy]
  simp only [beq_iff_eq, ← UInt64.toNat_inj, UInt64.toNat_mod, UInt64.toNat_ofNat']
  rfl

/-- Among any cycles in a row that are as many as the refresh interval, or all from the first one
on, there is one with a scheduled refresh. -/
theorem exists_due (k : Nat) :
    ∃ i ≤ k, k < i + s.monitor.reconciler.policy.refreshEvery.toNat ∧
      (s.after i).monitor.due = true := by
  have hpositive := s.monitor.reconciler.policy.refreshEvery_pos
  generalize hinterval : s.monitor.reconciler.policy.refreshEvery.toNat = interval at hpositive
  have hsince : k % 2 ^ 64 % interval ≤ k % 2 ^ 64 := Nat.mod_le _ _
  have hlt := Nat.mod_lt (k % 2 ^ 64) hpositive
  refine ⟨k - k % 2 ^ 64 % interval, Nat.sub_le _ _, by omega, ?_⟩
  rw [due_after_iff hfresh, hinterval]
  have hindex : (k - k % 2 ^ 64 % interval) % 2 ^ 64 = k % 2 ^ 64 - k % 2 ^ 64 % interval := by
    omega
  rw [hindex]
  exact Nat.mod_eq_zero_of_dvd (Nat.dvd_sub_mod _)

end Fresh

section Fetched

variable {s} {i k : Nat} {networks : List Network}

/-- A scheduled refresh that was answered has fetched a tree. -/
theorem fetched_ne_nil_of_due (hok : s.account.failure? = none) (hdue : s.monitor.due = true) :
    s.fetched ≠ [] := by
  have hcounted := scheduledCount?_isSome hok
  rw [hdue, scheduledCount?, Account.scheduledCount?, Account.countOf?,
    Option.isSome_map] at hcounted
  obtain ⟨networks, hvalue⟩ := Option.isSome_iff_exists.mp hcounted
  obtain ⟨reply, hscheduled, hvalue⟩ := Option.bind_eq_some_iff.mp hvalue
  have hmem : networks ∈ s.fetched := by
    rw [fetched, trees_eq, hscheduled, List.mem_filterMap]
    exact ⟨reply, List.mem_cons_self, hvalue⟩
  exact List.ne_nil_of_mem hmem

/-- The tree fetched last was fetched no earlier than any other. -/
theorem exists_fetchedIn (hi : i ≤ k) (h : (s.after i).fetched ≠ []) :
    ∃ j networks, i ≤ j ∧ s.FetchedIn j k networks := by
  induction k, hi using Nat.le_induction with
  | base =>
    obtain ⟨networks, hlast⟩ := Option.isSome_iff_exists.mp (List.getLast?_isSome.mpr h)
    exact ⟨i, networks, Nat.le_refl i, Nat.le_refl i, hlast, by omega⟩
  | succ k hi ih =>
    by_cases hnone : (s.after (k + 1)).fetched = []
    · obtain ⟨j, networks, hij, hjk, hlast, hlater⟩ := ih
      refine ⟨j, networks, hij, by omega, hlast, fun other hlt hle => ?_⟩
      rcases Nat.lt_or_eq_of_le hle with hbefore | rfl
      · exact hlater other hlt (by omega)
      · exact hnone
    · obtain ⟨networks, hlast⟩ := Option.isSome_iff_exists.mp (List.getLast?_isSome.mpr hnone)
      exact ⟨k + 1, networks, by omega, Nat.le_refl _, hlast, by omega⟩

private theorem FetchedIn.latestTree? (h : s.FetchedIn i k networks) :
    s.latestTree? (k + 1) = some networks := by
  obtain ⟨hle, hlast, hlater⟩ := h
  induction k, hle using Nat.le_induction with
  | base => rw [Session.latestTree?, during_succ, List.getLast?_append, hlast, Option.some_or]
  | succ k hle ih =>
    rw [Session.latestTree?, during_succ, hlater (k + 1) (by omega) (Nat.le_refl _),
      List.append_nil]
    exact ih fun j hlt hjk => hlater j hlt (by omega)

/-- A mismatching cycle without failures ends with a tree that it asks for behind the counters of
every watched network. -/
theorem exists_forced (hok : s.account.failure? = none) (hmismatch : s.Mismatches) :
    s.sent.length = s.monitor.watched.entries.length ∧
      ∃ earlier networks events, s.fetched.getLast? = some networks ∧
        s.exchanges = earlier ++ s.statsRequests ++ [.tree ⟨.ok networks, events⟩] := by
  obtain ⟨_, _, hforced⟩ := Account.failure?_eq_none_iff.mp hok
  obtain ⟨aggregate, haggregate⟩ := exists_aggregate? hok
  refine ⟨length_sent haggregate, ?_⟩
  have hcounted := (forcedCount?_isSome_iff hok).mpr hmismatch
  rw [forcedCount?, Account.forcedCount?, Account.countOf?_isSome hforced] at hcounted
  obtain ⟨⟨failure | networks, events⟩, hreply⟩ := Option.isSome_iff_exists.mp hcounted
  · rw [hreply] at hforced
    cases hforced
  · refine ⟨s.account.scheduled.toList.map .tree, networks, events, ?_, ?_⟩
    · rw [fetched, trees_eq, hreply, List.filterMap_append]
      simp [Reply.value?, Except.toOption]
    · rw [exchanges_eq_account, hreply]
      rfl

/-- A report that raises any doubt comes from a mismatching cycle. -/
theorem mismatches_of_doubt {report : CycleReport} (h : s.reply.result = .ok report)
    (hdoubt : report.phase ≠ .synced ∨ report.incorrect ≠ none ∨ report.expected ≠ report.total) :
    s.Mismatches := by
  have hok := (reply_result_eq_ok_iff.mp h).1
  obtain ⟨aggregate, _, htotal, rfl⟩ := exists_aggregate_of_reply h
  refine ⟨aggregate.total, htotal, fun heq => ?_⟩
  obtain ⟨hstreak, hlast⟩ := ledger_next_of_eq hok htotal heq
  have hexpected := expected_next htotal
  rw [forcedCount?_eq_none hok htotal heq, Option.getD_none, ← heq] at hexpected
  obtain hphase | hincorrect | hdiffers := hdoubt
  · exact hphase (Ledger.phase_eq_synced_iff.mpr hstreak)
  · refine hincorrect ?_
    simp [Reconciler.report, Reconciler.escalated, hlast]
  · exact hdiffers hexpected

end Fetched

/-- The expected count is always the one of the tree fetched last, under the networks watched from
the start, and zero before the first tree. In a run without failures that tree is younger than the
refresh interval, and a report that raises any doubt rests on a tree fetched in its own cycle, in
the last request of it, behind the counters of every watched network. -/
theorem expected_eq_of_latestTree {σ : Type} {source : Source (StateM σ)} {plugin : String}
    {policy : Policy} {world : σ} {s : Session σ}
    (hstart : start source plugin policy world = .ok s) :
    (∀ n, (s.after n).monitor.watched = s.monitor.watched ∧
      (s.after n).monitor.expected = ((s.latestTree? n).map fun networks =>
        Snapshot.expected ⟨networks⟩ s.monitor.watched).getD 0) ∧
    ∀ (n : Nat) (reports : Nat → CycleReport),
      (∀ i < n, (s.after i).reply.result = .ok (reports i)) → ∀ k < n,
      (∃ i networks, k < i + policy.refreshEvery.toNat ∧ s.FetchedIn i k networks ∧
        (reports k).expected = Snapshot.expected ⟨networks⟩ s.monitor.watched) ∧
      ((reports k).phase ≠ .synced ∨ (reports k).incorrect ≠ none ∨
          (reports k).expected ≠ (reports k).total →
        ∃ networks, s.FetchedIn k k networks ∧
          (reports k).expected = Snapshot.expected ⟨networks⟩ s.monitor.watched ∧
          (s.after k).sent.length = s.monitor.watched.entries.length ∧
          ∃ earlier events, (s.after k).exchanges =
            earlier ++ (s.after k).statsRequests ++ [.tree ⟨.ok networks, events⟩]) := by
  have hreconciler : s.monitor.reconciler = ⟨policy, {}⟩ := start_reconciler hstart
  have hexpected (n : Nat) : (s.after n).monitor.expected = ((s.latestTree? n).map fun networks =>
      Snapshot.expected ⟨networks⟩ s.monitor.watched).getD 0 := by
    rw [expected_after, Monitor.expected, hreconciler]
  refine ⟨fun n => ⟨s.after_watched n, hexpected n⟩, ?_⟩
  intro n reports hreports k hk
  have hok : ∀ i < n, (s.after i).account.failure? = none := fun i hi =>
    (reply_result_eq_ok_iff.mp (hreports i hi)).1
  -- A report shows the count that the cycle leaves behind.
  have hbehind {i : Nat} {networks : List Network} (hfetched : s.FetchedIn i k networks) :
      (reports k).expected = Snapshot.expected ⟨networks⟩ s.monitor.watched := by
    have hreport := (reply_result_eq_ok_iff.mp (hreports k hk)).2
    have hcount := hexpected (k + 1)
    rw [hfetched.latestTree?] at hcount
    rw [← hreport]
    exact hcount
  constructor
  · have hpolicy : s.monitor.reconciler.policy = policy := by
      rw [hreconciler]
    have hcycle : s.monitor.reconciler.ledger.cycle = 0 := by
      rw [hreconciler]
    obtain ⟨first, hle, hinterval, hdue⟩ := exists_due hcycle k
    rw [hpolicy] at hinterval
    obtain ⟨i, networks, hfirst, hfetched⟩ :=
      exists_fetchedIn hle (fetched_ne_nil_of_due (hok first (by omega)) hdue)
    exact ⟨i, networks, by omega, hfetched, hbehind hfetched⟩
  · intro hdoubt
    obtain ⟨hsent, earlier, networks, events, hlast, hexchanges⟩ :=
      exists_forced (hok k hk) (mismatches_of_doubt (hreports k hk) hdoubt)
    have hfetched : s.FetchedIn k k networks := ⟨Nat.le_refl k, hlast, by omega⟩
    rw [after_watched] at hsent
    exact ⟨networks, hfetched, hbehind hfetched, hsent, earlier, events, hexchanges⟩

/-- A network that grows to two points, of which the polling engine then loses one. -/
def faltering : ScriptedSource where
  listings := .ok [⟨⟨"a"⟩, "A", "modbus", true⟩]
  trees :=
    [.ok [⟨⟨"a"⟩, "A", "modbus", true, [⟨true, [⟨true⟩]⟩]⟩],
     .ok [⟨⟨"a"⟩, "A", "modbus", true, [⟨true, [⟨true⟩, ⟨true⟩]⟩]⟩]]
  stats :=
    [("A", [⟨.ok { enabled := true, queue := 1 }, 0⟩, ⟨.ok { enabled := true, queue := 2 }, 0⟩,
      ⟨.ok { enabled := true, queue := 1 }, 0⟩])]

/-- The session that starts on such a network. -/
def ofFaltering : Session ScriptedSource where
  source := ScriptedSource.source
  monitor := ⟨"modbus", ⟨[⟨⟨"a"⟩, "A"⟩]⟩, ⟨.standard, {}⟩⟩
  world := { faltering with listingCalls := 1 }

/-- Its reports. -/
def falteringReport (i : Nat) : CycleReport where
  cycle := .ofNat (i + 1)
  lockouts := false
  expected := if i = 0 then 1 else 2
  total := if i = 1 then 2 else 1
  inFlight := 0
  queue := if i = 1 then 2 else 1
  standby := 0
  phase := if i = 2 then .mismatched 1 else .synced
  incorrect := none

/-- The third cycle fetches the tree anew before it reports the loss. -/
theorem latestTree_of_faltering :
    start ScriptedSource.source "modbus" .standard faltering = .ok ofFaltering ∧
      (∀ i < 3, (ofFaltering.after i).reply.result = .ok (falteringReport i)) ∧
      (falteringReport 2).phase = .mismatched 1 ∧ (ofFaltering.after 2).monitor.due = false ∧
      ∃ networks, ofFaltering.FetchedIn 2 2 networks ∧
        (falteringReport 2).expected =
          Snapshot.expected ⟨networks⟩ ofFaltering.monitor.watched := by
  have hstart : start ScriptedSource.source "modbus" .standard faltering = .ok ofFaltering := rfl
  have hreports : ∀ i < 3, (ofFaltering.after i).reply.result = .ok (falteringReport i) := by
    decide +kernel
  have hdoubt : (falteringReport 2).phase ≠ .synced := by decide
  obtain ⟨_, hfresh⟩ :=
    (expected_eq_of_latestTree hstart).2 3 falteringReport hreports 2 (by decide)
  obtain ⟨networks, hfetched, hexpected, _⟩ := hfresh (.inl hdoubt)
  exact ⟨hstart, hreports, rfl, by decide +kernel, networks, hfetched, hexpected⟩

end Session

end PollAudit
