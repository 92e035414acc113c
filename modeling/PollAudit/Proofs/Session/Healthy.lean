import PollAudit.Audit.Script
import PollAudit.Proofs.Polling.Sum
import PollAudit.Proofs.Session.Exchange
import PollAudit.Proofs.Session.Streak
import PollAudit.Proofs.Tree.Points

namespace PollAudit

/-- The counters are those of a network under this identifier that polls what the tree asks for:
all points of it while the tree has it enabled, and otherwise none. -/
def LiveStats.AgreesWith (stats : LiveStats) (tree : Snapshot) (id : NetworkId) : Prop :=
  (∀ network ∈ tree.networks, network.id = id → network.enabled = true →
    stats.enabled = true ∧ stats.total.toNat = network.activePoints) ∧
  ((∀ network ∈ tree.networks, network.id = id → network.enabled = false) →
    stats.enabled = false ∨ stats.total = 0)

instance (stats : LiveStats) (tree : Snapshot) (id : NetworkId) :
    Decidable (stats.AgreesWith tree id) :=
  inferInstanceAs (Decidable (_ ∧ _))

namespace LiveStats.AgreesWith

variable {stats : LiveStats} {tree : Snapshot} {id : NetworkId}

private theorem total_eq_pointsOf (h : stats.AgreesWith tree id)
    (hdistinct : (tree.networks.map (·.id)).Nodup) (henabled : stats.enabled = true) :
    stats.total.toNat = tree.pointsOf id := by
  by_cases habsent : ∀ network ∈ tree.networks, network.id = id → network.enabled = false
  · rw [Snapshot.pointsOf_of_absent habsent]
    rcases h.2 habsent with hdisabled | hzero
    · rw [henabled] at hdisabled
      cases hdisabled
    · rw [hzero, UInt64.toNat_zero]
  · push Not at habsent
    obtain ⟨network, hmem, rfl, hne⟩ := habsent
    have hpresent : network.enabled = true := eq_true_of_ne_false hne
    rw [Snapshot.pointsOf_of_mem hdistinct hmem hpresent]
    exact (h.1 network hmem rfl hpresent).2

private theorem pointsOf_eq_zero (h : stats.AgreesWith tree id)
    (hdisabled : stats.enabled = false) :
    tree.pointsOf id = 0 := by
  refine Snapshot.pointsOf_of_absent fun network hmem hid => ?_
  by_contra hne
  have henabled := (h.1 network hmem hid (eq_true_of_ne_false hne)).1
  rw [hdisabled] at henabled
  cases henabled

end LiveStats.AgreesWith

/-- Counters that agree with the tree, one for each watched network, have the points of the
watched networks as their sum. -/
theorem LiveStats.sumOf_total_of_agree {tree : Snapshot}
    (hdistinct : (tree.networks.map (·.id)).Nodup) {entries : List Watch}
    {samples : List LiveStats} (hlength : samples.length = entries.length)
    (hagree : ∀ watch stats, (watch, stats) ∈ entries.zip samples →
      stats.AgreesWith tree watch.id) :
    LiveStats.sumOf LiveStats.total samples =
      (entries.map fun watch => tree.pointsOf watch.id).sum := by
  induction entries generalizing samples with
  | nil =>
    rw [List.length_nil, List.length_eq_zero_iff] at hlength
    subst samples
    rfl
  | cons watch rest ih =>
    obtain ⟨stats, samples, rfl⟩ := List.exists_cons_of_length_eq_add_one hlength
    have hfirst := hagree watch stats List.mem_cons_self
    have hrest := ih (Nat.succ.inj hlength) fun other stats hmem =>
      hagree other stats (List.mem_cons_of_mem _ hmem)
    rw [List.map_cons, List.sum_cons, ← hrest]
    cases henabled : stats.enabled with
    | false =>
      rw [LiveStats.sumOf_cons_of_disabled henabled, hfirst.pointsOf_eq_zero henabled, Nat.zero_add]
    | true =>
      rw [LiveStats.sumOf_cons_of_enabled henabled, hfirst.total_eq_pointsOf hdistinct henabled]

/-- The total of such counters is the expected count of the tree. -/
theorem Aggregate.total_eq_expected {tree : Snapshot} {watched : Watched}
    (htree : (tree.networks.map (·.id)).Nodup) (hwatched : (watched.entries.map (·.id)).Nodup)
    {samples : List LiveStats} (hlength : samples.length = watched.entries.length)
    (hagree : ∀ watch stats, (watch, stats) ∈ watched.entries.zip samples →
      stats.AgreesWith tree watch.id) :
    (Aggregate.ofSamples samples).total = tree.expected watched := by
  apply UInt64.toNat_inj.mp
  rw [Aggregate.toNat_total, LiveStats.sumOf_total_of_agree htree hlength hagree,
    tree.sum_pointsOf hwatched, Snapshot.expected, Count.toNat_ofNat, Snapshot.length_activePoints]

namespace Session

variable {σ : Type} {s : Session σ}

/-- The next cycle meets a healthy system configured as `tree`: no request fails, every request
for the tree brings this one, and the counters of every watched network agree with it. -/
structure Healthy (s : Session σ) (tree : Snapshot) : Prop where
  distinct : (tree.networks.map (·.id)).Nodup
  answered : s.Answered
  trees : ∀ reply ∈ s.trees, reply.result = .ok tree.networks
  counters : ∀ watch stats,
    (watch, .ok stats) ∈ s.monitor.watched.entries.zip (s.sent.map (·.reply.result)) →
      stats.AgreesWith tree watch.id

/-- The total of a cycle on a healthy system is the expected count of the tree. -/
theorem Healthy.total {tree : Snapshot} (h : s.Healthy tree)
    (hwatched : (s.monitor.watched.entries.map (·.id)).Nodup) :
    s.total? = some (tree.expected s.monitor.watched) := by
  obtain ⟨_, samples, hsent, hlength, haggregate⟩ := exists_samples h.answered
  have hagree : ∀ watch stats, (watch, stats) ∈ s.monitor.watched.entries.zip samples →
      stats.AgreesWith tree watch.id := by
    intro watch stats hmem
    refine h.counters watch stats ?_
    rw [hsent, List.zip_map_right]
    exact List.mem_map_of_mem hmem
  rw [total?, Account.total?, haggregate, Option.map_some,
    Aggregate.total_eq_expected h.distinct hwatched hlength hagree]

/-- The tree that a cycle on a healthy system fetches anew has the same count. -/
theorem Healthy.forcedCount {tree : Snapshot} (h : s.Healthy tree) {count : Count}
    (hcount : s.forcedCount? = some count) : count = tree.expected s.monitor.watched := by
  obtain ⟨networks, hnetworks, rfl⟩ := Option.map_eq_some_iff.mp hcount
  obtain ⟨reply, hforced, hvalue⟩ := Option.bind_eq_some_iff.mp hnetworks
  have hasked : reply ∈ s.trees := by
    simp [trees_eq, hforced]
  rw [Reply.value?, h.trees reply hasked] at hvalue
  cases hvalue
  rfl

/-- A cycle on a healthy system ends without a streak and expects what the tree says, however
stale the count was that it began with. -/
theorem Healthy.next {tree : Snapshot} (h : s.Healthy tree)
    (hwatched : (s.monitor.watched.entries.map (·.id)).Nodup) :
    s.next.monitor.reconciler.ledger.mismatches = 0 ∧
      s.next.monitor.reconciler.ledger.lastMismatch = none ∧
      s.next.monitor.expected = tree.expected s.monitor.watched := by
  have hok := (exists_samples h.answered).1
  have htotal := h.total hwatched
  by_cases heq : tree.expected s.monitor.watched = s.held
  · obtain ⟨hstreak, hlast⟩ := ledger_next_of_eq hok htotal heq
    refine ⟨hstreak, hlast, ?_⟩
    rw [expected_next htotal, heq]
    cases hforced : s.forcedCount? with
    | none => rfl
    | some count => rw [Option.getD_some, h.forcedCount hforced, heq]
  · -- The count was stale. The mismatch forces a refresh, and that changes it.
    have hsome : s.forcedCount?.isSome :=
      (forcedCount?_isSome_iff hok).mpr ⟨_, htotal, heq⟩
    obtain ⟨count, hforced⟩ := Option.isSome_iff_exists.mp hsome
    have hcount := h.forcedCount hforced
    obtain ⟨hstreak, hlast⟩ := ledger_next_of_forcedChange htotal
      ⟨count, hforced, hcount ▸ heq⟩
    refine ⟨hstreak, hlast, ?_⟩
    rw [expected_next htotal, hforced, Option.getD_some, hcount]

/-- No false alarm on a healthy system. Where every cycle meets a tree with distinct identifiers
and counters that agree with it, every cycle has a report, and every report is synced, expects
its own total and carries nothing incorrect. The tree may be another one in each cycle. -/
theorem report_of_healthy (hwatched : (s.monitor.watched.entries.map (·.id)).Nodup) {n : Nat}
    (hhealthy : ∀ i < n, ∃ tree, (s.after i).Healthy tree) :
    ∀ i < n, ∃ report, (s.after i).reply.result = .ok report ∧ report.phase = .synced ∧
      report.expected = report.total ∧ report.incorrect = none := by
  intro i hi
  obtain ⟨tree, h⟩ := hhealthy i hi
  have hwatched : ((s.after i).monitor.watched.entries.map (·.id)).Nodup := by
    rwa [after_watched]
  obtain ⟨hok, samples, _, _, haggregate⟩ := exists_samples h.answered
  obtain ⟨hstreak, hlast, hexpected⟩ := h.next hwatched
  refine ⟨_, reply_result_eq_ok_iff.mpr ⟨hok, rfl⟩, ?_, ?_, ?_⟩
  · exact Ledger.phase_eq_synced_iff.mpr hstreak
  · have htotal := h.total hwatched
    rw [total?, Account.total?, haggregate, Option.map_some, Option.some.injEq] at htotal
    rw [haggregate]
    exact hexpected.trans htotal.symm
  · simp [Reconciler.report, Reconciler.escalated, hlast]

/-- A tree of two networks to watch and one that is not, listed in another order than at the
start. The first has `points` points, the second is disabled. -/
def treeOf (points : Nat) : Snapshot where
  networks :=
    [⟨⟨"b"⟩, "B", "modbus", false, [⟨true, [⟨true⟩]⟩]⟩,
     ⟨⟨"x"⟩, "X", "bacnet", true, [⟨true, [⟨true⟩]⟩]⟩,
     ⟨⟨"a"⟩, "A", "modbus", true, [⟨true, List.replicate points ⟨true⟩⟩]⟩]

/-- A system that is healthy before and after a point is added. -/
def growing : ScriptedSource where
  listings := .ok [⟨⟨"x"⟩, "X", "bacnet", true⟩, ⟨⟨"a"⟩, "A", "modbus", true⟩,
    ⟨⟨"b"⟩, "B", "modbus", false⟩]
  trees := [.ok (treeOf 2).networks, .ok (treeOf 3).networks]
  stats :=
    [("A", [⟨.ok { enabled := true, queue := 2 }, 0⟩,
      ⟨.ok { enabled := true, queue := 1, inFlight := 2 }, 0⟩]),
     ("B", [⟨.ok { queue := 4 }, 0⟩])]

/-- The session that starts on such a system. -/
def ofGrowing : Session ScriptedSource where
  source := ScriptedSource.source
  monitor := ⟨"modbus", ⟨[⟨⟨"a"⟩, "A"⟩, ⟨⟨"b"⟩, "B"⟩]⟩, ⟨.standard, {}⟩⟩
  world := { growing with listingCalls := 1 }

/-- The added point makes a mismatch that is looked into, and no alarm. -/
theorem report_of_growing :
    start ScriptedSource.source "modbus" .standard growing = .ok ofGrowing ∧
      (∀ i < 2, (ofGrowing.after i).Healthy (treeOf (i + 2))) ∧
      ∀ i < 2, ∃ report, (ofGrowing.after i).reply.result = .ok report ∧
        report.phase = .synced ∧ report.expected = report.total ∧ report.incorrect = none := by
  have hdistinct : ∀ i < 2, ((treeOf (i + 2)).networks.map (·.id)).Nodup := by decide
  have hanswered : ∀ i < 2, ∀ exchange ∈ (ofGrowing.after i).exchanges,
      exchange.failure? = none := by decide +kernel
  have htrees : ∀ i < 2, ∀ reply ∈ (ofGrowing.after i).trees,
      reply.result = .ok (treeOf (i + 2)).networks := by decide +kernel
  have hcounters : ∀ i < 2, ∀ pair ∈ (ofGrowing.after i).monitor.watched.entries.zip
        ((ofGrowing.after i).sent.map (·.reply.result)),
      ∀ stats ∈ pair.2.toOption, stats.AgreesWith (treeOf (i + 2)) pair.1.id := by
    decide +kernel
  have hhealthy : ∀ i < 2, (ofGrowing.after i).Healthy (treeOf (i + 2)) := fun i hi =>
    ⟨hdistinct i hi, hanswered i hi, htrees i hi, fun _ _ hmem => hcounters i hi _ hmem _ rfl⟩
  exact ⟨rfl, hhealthy, report_of_healthy (by decide) fun i hi => ⟨_, hhealthy i hi⟩⟩

end Session

end PollAudit
