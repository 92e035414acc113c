import PollAudit.Proofs.Session.Failure
import PollAudit.Proofs.Session.Freshness

namespace PollAudit

/-- A request that a monitor makes of its source, without its answer. -/
inductive Call
  | listings
  | tree
  | stats (plugin network : String)
deriving DecidableEq, Repr

/-- The request asks for counters. -/
def Call.isStats : Call → Bool
  | stats _ _ => true
  | _ => false

/-- What was asked for. -/
def Exchange.call : Exchange → Call
  | listings _ => .listings
  | tree _ => .tree
  | stats plugin network _ => .stats plugin network

/-- The requests for the counters of some networks, in order. -/
def Batch.calls (plugin : String) (entries : List Watch) : List Call :=
  entries.map fun watch => .stats plugin watch.name

private theorem Batch.call_exchanges (plugin : String) {entries : List Watch} {sent : List Pending}
    (h : sent.length ≤ entries.length) :
    (exchanges plugin entries sent).map Exchange.call =
      calls plugin (entries.take sent.length) := by
  induction entries generalizing sent with
  | nil =>
    rw [List.length_nil, Nat.le_zero_eq, List.length_eq_zero_iff] at h
    subst sent
    rfl
  | cons watch rest ih =>
    cases sent with
    | nil => rfl
    | cons pending later => exact congrArg (.stats plugin watch.name :: ·) (ih (Nat.le_of_succ_le_succ h))

private theorem Batch.calls_take (plugin : String) (entries : List Watch) (k : Nat) :
    calls plugin (entries.take k) <+: calls plugin entries :=
  (List.take_prefix k entries).map _

namespace Session

variable {σ : Type} (s : Session σ)

instance : Decidable s.Mismatches :=
  decidable_of_iff (s.total?.any (· ≠ s.held) = true) (by
    cases h : s.total? <;> simp [Mismatches, h])

/-- What the next cycle asks for, in order. -/
def calls : List Call :=
  s.exchanges.map Exchange.call

/-- What a cycle asks for that goes to its end: the tree if a refresh is due, the counters of every
watched network, and the tree anew if the total differs from the expected count. -/
def plan : List Call :=
  (if s.monitor.due then [.tree] else []) ++
    Batch.calls s.monitor.plugin s.monitor.watched.entries ++
    (if s.Mismatches then [.tree] else [])

/-- The next cycle ends with a request that fails of `failure`. Behind it there are at most other
requests of the same batch. -/
def StopsAt (failure : Failure) : Prop :=
  ∃ before exchange later, s.exchanges = before ++ exchange :: later ∧
    exchange.failure? = some failure ∧ (∀ other ∈ later, other.call.isStats = true) ∧
    (exchange.call.isStats = false → later = [])

variable {s}

/-- No more requests are sent than there are networks watched. -/
theorem length_sent_le : s.sent.length ≤ s.monitor.watched.entries.length := by
  rw [sent_eq]
  exact Monitor.length_sent_le

/-- Whether a cycle fails or not, only the requests for counters can be cut short. -/
theorem calls_eq : s.calls =
    (if s.monitor.due then [.tree] else []) ++
      Batch.calls s.monitor.plugin (s.monitor.watched.entries.take s.sent.length) ++
      (if s.Mismatches then [.tree] else []) := by
  have hdue : s.account.scheduled.isSome = s.monitor.due :=
    Monitor.account_scheduled_isSome s.source s.monitor s.world
  have hscheduled : (s.account.scheduled.toList.map Exchange.tree).map Exchange.call =
      if s.monitor.due then [.tree] else [] := by
    rw [← hdue]
    cases s.account.scheduled <;> rfl
  have hforced : (s.account.forced.toList.map Exchange.tree).map Exchange.call =
      if s.Mismatches then [.tree] else [] := by
    by_cases h : s.Mismatches
    · obtain ⟨reply, hreply⟩ := Option.isSome_iff_exists.mp (forced_isSome_iff.mpr h)
      rw [hreply, if_pos h]
      rfl
    · rw [Option.not_isSome_iff_eq_none.mp (mt forced_isSome_iff.mp h), if_neg h]
      rfl
  rw [calls, exchanges_eq_account, List.map_append, List.map_append, hscheduled, hforced,
    statsRequests, Batch.call_exchanges _ length_sent_le]

private theorem length_sent_of_mismatches (h : s.Mismatches) :
    s.sent.length = s.monitor.watched.entries.length := by
  obtain ⟨total, htotal, _⟩ := h
  obtain ⟨aggregate, haggregate, _⟩ := Option.map_eq_some_iff.mp htotal
  exact length_sent haggregate

/-- A cycle asks for a prefix of what one that goes to its end asks for. -/
theorem calls_prefix_plan : s.calls <+: s.plan := by
  rw [calls_eq, plan]
  by_cases h : s.Mismatches
  · simp only [length_sent_of_mismatches h, List.take_length, List.prefix_rfl]
  · rw [if_neg h, List.append_nil, List.append_nil, List.prefix_append_right_inj]
    exact Batch.calls_take ..

private theorem calls_of_ok (h : s.account.failure? = none) : s.calls = s.plan := by
  obtain ⟨aggregate, haggregate⟩ := exists_aggregate? h
  rw [calls_eq, plan, length_sent haggregate, List.take_length]

/-- The requests of a batch are requests for counters. -/
theorem isStats_of_mem_statsRequests {exchange : Exchange} (h : exchange ∈ s.statsRequests) :
    exchange.call.isStats = true := by
  obtain ⟨i, hi, hget⟩ := List.mem_iff_getElem.mp h
  simp only [statsRequests, Batch.exchanges, List.getElem_zipWith] at hget
  rw [← hget]
  rfl

/-- What was sent is in the log. -/
theorem exists_mem_statsRequests {pending : Pending} (h : pending ∈ s.sent) :
    ∃ plugin network, .stats plugin network pending ∈ s.statsRequests := by
  rw [← Batch.stats?_exchanges s.monitor.plugin length_sent_le] at h
  obtain ⟨exchange, hmem, hstats⟩ := List.mem_filterMap.mp h
  cases exchange <;> cases hstats
  exact ⟨_, _, hmem⟩

/-- A cycle that fails stops at the request that failed. -/
theorem stopsAt_of_error {failure : Failure} (h : s.reply.result = .error failure) :
    s.StopsAt failure := by
  obtain hscheduled | ⟨hscheduled, hsampling | ⟨hsampled, hforced⟩⟩ :=
    Account.failure?_eq_some_iff.mp (failure?_of_reply_eq_error h)
  · obtain ⟨events, hexchanges⟩ := (endsAtScheduled hscheduled).requests
    exact ⟨[], _, [], hexchanges, rfl, List.forall_mem_nil _, fun _ => rfl⟩
  · obtain ⟨_, ⟨pending, hpending, herror⟩, hexchanges, _⟩ := endsAtSampling hscheduled hsampling
    obtain ⟨plugin, network, hmem⟩ := exists_mem_statsRequests hpending
    obtain ⟨before, later, hsplit⟩ := List.append_of_mem hmem
    refine ⟨s.account.scheduled.toList.map .tree ++ before, .stats plugin network pending, later,
      ?_, ?_, ?_, nofun⟩
    · rw [hexchanges, hsplit, ← List.append_assoc]
    · rw [Exchange.failure?, Reply.failure?, herror]
    · intro other hother
      refine isStats_of_mem_statsRequests (s := s) ?_
      rw [hsplit]
      exact List.mem_append_right _ (List.mem_cons_of_mem _ hother)
  · obtain ⟨samples, hends⟩ := endsAtForced hscheduled hsampled hforced
    obtain ⟨events, hexchanges⟩ := hends.requests
    exact ⟨_, _, [], hexchanges, rfl, List.forall_mem_nil _, fun _ => rfl⟩

section Run

variable (s)

/-- The same session on a source that keeps a log. -/
def logged (log : List Exchange) : Session (σ × List Exchange) :=
  ⟨s.source.logged, s.monitor, (s.world, log)⟩

/-- A cycle adds its requests to the log and takes no notice of it. -/
theorem next_logged (log : List Exchange) : (s.logged log).next = s.next.logged (log ++ s.exchanges) := by
  rw [next, logged, s.cycle_logged log]
  rfl

/-- The log of a run has the requests of its cycles, one cycle after the other. -/
theorem after_logged (log : List Exchange) (n : Nat) :
    (s.logged log).after n = (s.after n).logged (log ++ s.during exchanges n) := by
  induction n with
  | zero => rw [after_zero, after_zero, during, List.range_zero, List.flatMap_nil, List.append_nil]
  | succ n ih => rw [after_succ, ih, next_logged, during_succ, List.append_assoc, after_succ]

variable {s}

/-- The start of a session lists the networks once and asks for nothing else. -/
theorem start_logged {source : Source (StateM σ)} {plugin : String} {policy : Policy} {world : σ}
    (h : start source plugin policy world = .ok s) :
    ∃ listings events, s.monitor.watched = Watched.ofListings listings plugin ∧
      start source.logged plugin policy (world, []) =
        .ok (s.logged [.listings ⟨.ok listings, events⟩]) := by
  obtain ⟨listings, events, hlistings, hsource, hmonitor⟩ := start_eq_ok h
  refine ⟨listings, events, by rw [hmonitor], ?_⟩
  have hlogged : source.logged.listings (world, []) =
      (⟨.ok listings, events⟩, s.world, [.listings ⟨.ok listings, events⟩]) := by
    simp only [Source.logged, hlistings, List.nil_append]
  rw [start_of_ok hlogged, logged, hsource, hmonitor]

end Run

section Counted

private theorem listings_not_mem_plan : .listings ∉ s.plan := by
  unfold plan Batch.calls
  split <;> split <;> simp

private theorem count_tree_plan : s.plan.count .tree =
    (if s.monitor.due then 1 else 0) + if s.Mismatches then 1 else 0 := by
  have hstats : (Batch.calls s.monitor.plugin s.monitor.watched.entries).count .tree = 0 := by
    simp [List.count_eq_zero, Batch.calls]
  rw [plan, List.count_append, List.count_append, hstats]
  split <;> split <;> rfl

private theorem countP_isStats_plan : s.plan.countP Call.isStats = s.monitor.watched.size := by
  have hstats : (Batch.calls s.monitor.plugin s.monitor.watched.entries).countP Call.isStats =
      s.monitor.watched.size := by
    rw [Batch.calls, List.countP_map, Watched.size]
    exact List.countP_eq_length.mpr fun _ _ => rfl
  rw [plan, List.countP_append, List.countP_append, hstats]
  split <;> split <;> simp [Call.isStats]

/-- Going one further, the quotient rounded up grows exactly behind a multiple. -/
theorem ceil_succ {m : Nat} (hm : 0 < m) (n : Nat) :
    (n + 1 + m - 1) / m = (n + m - 1) / m + if n % m = 0 then 1 else 0 := by
  have hsucc : n + 1 + m - 1 = n + m - 1 + 1 := by omega
  have hlast : n + m - 1 + 1 = n + m := by omega
  rw [hsucc, Nat.succ_div, hlast]
  simp only [Nat.dvd_iff_mod_eq_zero, Nat.add_mod_right]

variable (hfresh : s.monitor.reconciler.ledger.cycle = 0)

include hfresh

/-- In cycle `k`, counted from zero, a refresh is due if the refresh interval divides `k`. -/
theorem due_after {k : Nat} (hk : k < 2 ^ 64) : (s.after k).monitor.due = true ↔
    k % s.monitor.reconciler.policy.refreshEvery.toNat = 0 := by
  rw [due_after_iff hfresh, Nat.mod_eq_of_lt hk]

/-- The trees that a run without failures asks for: one for every started refresh interval, and one
for every mismatch. -/
theorem count_tree_during {n : Nat} (hn : n < 2 ^ 64)
    (hok : ∀ k < n, (s.after k).account.failure? = none) :
    (s.during calls n).count .tree =
      (n + s.monitor.reconciler.policy.refreshEvery.toNat - 1) /
          s.monitor.reconciler.policy.refreshEvery.toNat +
        (List.range n).countP (fun k => (s.after k).Mismatches) := by
  have hpositive := s.monitor.reconciler.policy.refreshEvery_pos
  induction n with
  | zero =>
    rw [Nat.div_eq_of_lt (by omega)]
    rfl
  | succ n ih =>
    have hbefore := ih (by omega) fun k hk => hok k (by omega)
    rw [during_succ, List.count_append, hbefore, calls_of_ok (hok n (by omega)), count_tree_plan,
      ceil_succ hpositive, List.range_succ, List.countP_append, List.countP_singleton]
    simp only [due_after hfresh (show n < 2 ^ 64 by omega), decide_eq_true_eq]
    omega

omit hfresh in
private theorem countP_isStats_during {n : Nat}
    (hok : ∀ k < n, (s.after k).account.failure? = none) :
    (s.during calls n).countP Call.isStats = n * s.monitor.watched.size := by
  induction n with
  | zero => simp [during]
  | succ n ih =>
    rw [during_succ, List.countP_append, ih fun k hk => hok k (by omega),
      calls_of_ok (hok n (by omega)), countP_isStats_plan, after_watched, Nat.succ_mul]

end Counted

/-- What a run asks of its source, be there failed cycles in it or not. The networks are listed
once, at the start. Cycle `k`, counted from zero, asks for the tree if the refresh interval divides
`k`, then for the counters of every watched network in the order of discovery, and then for the tree
anew if the total differs from the expected count, even right behind a scheduled refresh. A cycle
that fails asks for a prefix of this that ends with the request that failed or with its batch. So
the requests of a run without failures can be counted. -/
theorem calls_of_run {source : Source (StateM σ)} {plugin : String} {policy : Policy} {world : σ}
    (hstart : start source plugin policy world = .ok s) {n : Nat} (hn : n < 2 ^ 64) :
    (∃ listings events, s.monitor.watched = Watched.ofListings listings plugin ∧
      start source.logged plugin policy (world, []) =
        .ok (s.logged [.listings ⟨.ok listings, events⟩]) ∧
      ((s.logged [.listings ⟨.ok listings, events⟩]).after n).world.2.map Exchange.call =
        .listings :: s.during calls n ∧
      .listings ∉ s.during calls n) ∧
    (∀ k < n,
      let plan := (if k % policy.refreshEvery.toNat = 0 then [.tree] else []) ++
        Batch.calls plugin s.monitor.watched.entries ++
        (if (s.after k).Mismatches then [.tree] else [])
      (∀ report, (s.after k).reply.result = .ok report →
        (s.after k).calls = plan ∧ report.cycle.toNat = k + 1) ∧
      ∀ failure, (s.after k).reply.result = .error failure →
        (s.after k).calls <+: plan ∧ (s.after k).StopsAt failure) ∧
    ((∀ k < n, ∃ report, (s.after k).reply.result = .ok report) →
      (s.during calls n).count .tree =
          (n + policy.refreshEvery.toNat - 1) / policy.refreshEvery.toNat +
            (List.range n).countP (fun k => (s.after k).Mismatches) ∧
        (s.during calls n).countP Call.isStats = n * s.monitor.watched.size) := by
  have hreconciler : s.monitor.reconciler = ⟨policy, {}⟩ := start_reconciler hstart
  have hcycle : s.monitor.reconciler.ledger.cycle = 0 := by
    rw [hreconciler]
  have hpolicy : s.monitor.reconciler.policy = policy := by
    rw [hreconciler]
  obtain ⟨listings, events, hwatched, hlogged⟩ := start_logged hstart
  have hplan {k : Nat} (hk : k < n) : (s.after k).plan =
      (if k % policy.refreshEvery.toNat = 0 then [.tree] else []) ++
        Batch.calls plugin s.monitor.watched.entries ++
        (if (s.after k).Mismatches then [.tree] else []) := by
    obtain ⟨_, _, _, _, hmonitor⟩ := start_eq_ok hstart
    have hplugin : s.monitor.plugin = plugin := by
      rw [hmonitor]
    rw [plan, after_watched, after_plugin, hplugin, ← hpolicy]
    simp only [due_after hcycle (Nat.lt_trans hk hn)]
  refine ⟨⟨listings, events, hwatched, hlogged, ?_, ?_⟩, ?_, ?_⟩
  · rw [after_logged]
    simp only [logged, List.singleton_append, List.map_cons, Exchange.call, during, List.map_flatMap]
    rfl
  · intro hmem
    obtain ⟨k, _, hlisted⟩ := List.mem_flatMap.mp hmem
    exact listings_not_mem_plan (calls_prefix_plan.subset hlisted)
  · intro k hk plan
    have hwhole : plan = (s.after k).plan := (hplan hk).symm
    rw [hwhole]
    refine ⟨fun report hreport => ⟨?_, ?_⟩, fun failure hfailed => ⟨calls_prefix_plan, ?_⟩⟩
    · exact calls_of_ok (reply_result_eq_ok_iff.mp hreport).1
    · obtain ⟨_, _, _, rfl⟩ := exists_aggregate_of_reply hreport
      change ((s.after (k + 1)).monitor.reconciler.ledger.cycle).toNat = k + 1
      rw [cycle_after hcycle, UInt64.toNat_ofNat_of_lt' (by
        change k + 1 < 2 ^ 64
        omega)]
    · exact stopsAt_of_error hfailed
  · intro hreports
    have hok : ∀ k < n, (s.after k).account.failure? = none := by
      intro k hk
      obtain ⟨report, hreport⟩ := hreports k hk
      exact (reply_result_eq_ok_iff.mp hreport).1
    rw [← hpolicy]
    exact ⟨count_tree_during hcycle hn hok, countP_isStats_during hok⟩

/-- Two networks of one point each. The second one misses its second request for counters and has
lost its point by the third. -/
def flickering : ScriptedSource where
  listings := .ok [⟨⟨"a"⟩, "A", "modbus", true⟩, ⟨⟨"b"⟩, "B", "modbus", true⟩]
  trees :=
    [.ok [⟨⟨"a"⟩, "A", "modbus", true, [⟨true, [⟨true⟩]⟩]⟩,
      ⟨⟨"b"⟩, "B", "modbus", true, [⟨true, [⟨true⟩]⟩]⟩]]
  stats :=
    [("A", [⟨.ok { enabled := true, queue := 1 }, 0⟩]),
     ("B", [⟨.ok { enabled := true, queue := 1 }, 0⟩, ⟨.error (.timeout "B"), 0⟩,
      ⟨.ok { enabled := true }, 0⟩])]

/-- The session that starts on such networks, with a refresh in every second cycle. -/
def ofFlickering : Session ScriptedSource where
  source := ScriptedSource.source
  monitor := ⟨"modbus", ⟨[⟨⟨"a"⟩, "A"⟩, ⟨⟨"b"⟩, "B"⟩]⟩, ⟨⟨2, 2, by decide⟩, {}⟩⟩
  world := { flickering with listingCalls := 1 }

/-- The report of its third cycle. -/
def flickeringReport : CycleReport where
  cycle := 3
  lockouts := false
  expected := 2
  total := 1
  inFlight := 0
  queue := 1
  standby := 0
  phase := .mismatched 1
  incorrect := none

/-- The failed cycle asks for no tree, and counts for the refreshes: the one behind it has a
scheduled refresh and a forced one. -/
theorem calls_of_flickering :
    start ScriptedSource.source "modbus" ⟨2, 2, by decide⟩ flickering = .ok ofFlickering ∧
      (ofFlickering.after 1).calls = [.stats "modbus" "A", .stats "modbus" "B"] ∧
      (ofFlickering.after 1).StopsAt (.timeout "B") ∧
      (ofFlickering.after 2).calls =
        [.tree, .stats "modbus" "A", .stats "modbus" "B", .tree] ∧
      flickeringReport.cycle.toNat = 3 := by
  have hstart : start ScriptedSource.source "modbus" ⟨2, 2, by decide⟩ flickering =
      .ok ofFlickering := rfl
  have hfailed : (ofFlickering.after 1).reply.result = .error (.timeout "B") := by decide +kernel
  have hreport : (ofFlickering.after 2).reply.result = .ok flickeringReport := by decide +kernel
  have hmismatch : (ofFlickering.after 2).Mismatches := by decide +kernel
  obtain ⟨_, hcycles, _⟩ := calls_of_run hstart (n := 3) (by decide)
  obtain ⟨_, hstops⟩ := (hcycles 1 (by decide)).2 _ hfailed
  obtain ⟨hcalls, hcycle⟩ := (hcycles 2 (by decide)).1 _ hreport
  rw [if_pos hmismatch] at hcalls
  exact ⟨hstart, by decide +kernel, hstops, hcalls, hcycle⟩

end Session

end PollAudit
