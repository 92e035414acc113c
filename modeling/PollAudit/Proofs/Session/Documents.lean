import PollAudit.Proofs.Api.Documents
import PollAudit.Proofs.Api.Endpoint
import PollAudit.Proofs.Session.Freshness
import PollAudit.Proofs.Session.World

namespace PollAudit

/-- The documents that a cycle finds: the tree of its scheduled refresh if it asks for one, the
statistics of every watched network, and the tree that it fetches anew if it does. -/
structure Documents where
  scheduled : Option (List Wire.Network) := none
  stats : List Wire.QueueStats
  forced : Option (List Wire.Network) := none

namespace Documents

/-- The trees among the documents, in the order in which they are found. -/
def trees (documents : Documents) : List (List Wire.Network) :=
  documents.scheduled.toList ++ documents.forced.toList

/-- The tree found last in the first `n` cycles, if there was one. -/
def latestTree? (documents : Nat → Documents) (n : Nat) : Option (List Wire.Network) :=
  ((List.range n).flatMap fun k => (documents k).trees).getLast?

end Documents

/-- A report has the sums of statistics as they were sent. -/
structure CycleReport.Sums (report : CycleReport) (documents : List Wire.QueueStats) : Prop where
  queue : report.queue.toNat = min (2 ^ 64 - 1) (Wire.sumOf Wire.QueueStats.queue documents)
  standby : report.standby.toNat = min (2 ^ 64 - 1) (Wire.sumOf Wire.QueueStats.standby documents)
  inFlight : report.inFlight.toNat =
    min (2 ^ 64 - 1) (Wire.sumOf Wire.QueueStats.outForPolling documents)
  total : report.total.toNat = min (2 ^ 64 - 1)
    (Wire.sumOf Wire.QueueStats.queue documents + Wire.sumOf Wire.QueueStats.standby documents +
      Wire.sumOf Wire.QueueStats.outForPolling documents)
  lockouts : report.lockouts = true ↔
    ∃ stats ∈ documents, stats.enable = true ∧ stats.isLocked = true

namespace Session

variable {σ : Type}

/-- Every request of the next cycle finds a document, in the world that the requests before it
left. -/
structure Reads (s : Session σ) (api : Api) (exchange : Http.Exchange (StateM σ))
    (documents : Documents) : Prop where
  asksScheduled : s.account.scheduled.isSome = documents.scheduled.isSome
  scheduled : ∀ networks ∈ documents.scheduled,
    api.Finds exchange Wire.decodeNetworks api.tree s.world networks
  stats : api.FindsAll exchange s.monitor.plugin s.monitor.watched.entries s.opening documents.stats
  asksForced : s.account.forced.isSome = documents.forced.isSome
  forced : ∀ networks ∈ documents.forced,
    api.Finds exchange Wire.decodeNetworks api.tree s.sampling.2 networks

/-- A tree request was made if there is a tree for it, and that tree is what it found. -/
def Found (reply : Option (Reply (List Network))) (networks : Option (List Wire.Network)) : Prop :=
  reply.map Reply.result = networks.map fun networks => .ok (networks.map Wire.Network.config)

section Found

variable {reply : Option (Reply (List Network))} {networks : Option (List Wire.Network)}

private theorem Found.failure? (h : Found reply networks) : reply.bind Reply.failure? = none := by
  rcases reply with _ | ⟨failure | _, _⟩
  · rfl
  · cases networks <;> cases h
  · rfl

private theorem Found.value? (h : Found reply networks) :
    reply.toList.filterMap Reply.value? =
      networks.toList.map fun networks => networks.map Wire.Network.config := by
  rcases reply with _ | ⟨failure | _, _⟩
  · cases networks
    · rfl
    · cases h
  · cases networks <;> cases h
  · cases networks <;> cases h
    rfl

end Found

namespace Reads

variable {s : Session σ} {api : Api} {exchange : Http.Exchange (StateM σ)} {documents : Documents}
  (h : s.Reads api exchange documents) (hs : s.source = api.source exchange)

include h hs

private theorem found_scheduled : Found s.account.scheduled documents.scheduled := by
  have hasks := h.asksScheduled
  rw [account_scheduled] at hasks ⊢
  cases hnetworks : documents.scheduled with
  | none =>
    rw [hnetworks, Option.isSome_none, Option.isSome_eq_false_iff, Option.isNone_iff_eq_none] at hasks
    rw [hasks]
    rfl
  | some networks =>
    obtain ⟨events, htree⟩ := (h.scheduled networks hnetworks).tree
    cases hdue : s.monitor.due with
    | false => simp [hdue, hnetworks] at hasks
    | true =>
      rw [hs, htree]
      rfl

private theorem exists_samples : ∃ samples, Wire.Sampled documents.stats samples ∧
    s.account.batch.map Reply.result = some (.ok samples) := by
  obtain ⟨samples, hsampled, hrun⟩ := h.stats.run
  obtain ⟨hbatch, _⟩ := next_world_of_sampled (h.found_scheduled hs).failure?
  refine ⟨samples, hsampled, ?_⟩
  rw [hbatch, Option.map_some, sampling, hs, hrun]

private theorem found_forced : Found s.account.forced documents.forced := by
  have hasks := h.asksForced
  obtain ⟨_, ⟨hnone, _⟩ | ⟨reply, hreply, htree⟩⟩ :=
    next_world_of_sampled (h.found_scheduled hs).failure?
  · rw [hnone] at hasks ⊢
    cases hnetworks : documents.forced with
    | none => rfl
    | some networks =>
      rw [hnetworks] at hasks
      cases hasks
  · rw [hreply] at hasks ⊢
    cases hnetworks : documents.forced with
    | none =>
      rw [hnetworks] at hasks
      cases hasks
    | some networks =>
      obtain ⟨events, hfound⟩ := (h.forced networks hnetworks).tree
      rw [hs, hfound] at htree
      rw [← (Prod.mk.inj htree).1]
      rfl

/-- The trees that the cycle fetches are those that it found. -/
theorem fetched_eq : s.fetched =
    documents.trees.map fun networks => networks.map Wire.Network.config := by
  rw [fetched, trees_eq, List.filterMap_append, (h.found_scheduled hs).value?,
    (h.found_forced hs).value?, Documents.trees, List.map_append]

/-- So the cycle has a report, with the sums of the statistics. -/
theorem exists_report : ∃ report, s.reply.result = .ok report ∧
    report.expected = s.next.monitor.expected ∧ report.Sums documents.stats := by
  obtain ⟨samples, hsampled, hbatch⟩ := h.exists_samples hs
  obtain ⟨reply, hreply, hresult⟩ := Option.map_eq_some_iff.mp hbatch
  have hok : s.account.failure? = none := by
    rw [Account.failure?_eq_none_iff, hreply, Option.bind_some, Reply.failure?, hresult]
    exact ⟨(h.found_scheduled hs).failure?, rfl, (h.found_forced hs).failure?⟩
  have haggregate : s.account.aggregate? = some (.ofSamples samples) := by
    rw [Account.aggregate?, hreply, Option.bind_some, Reply.value?, hresult]
    rfl
  refine ⟨s.next.monitor.reconciler.report (.ofSamples samples),
    reply_result_eq_ok_iff.mpr ⟨hok, by rw [haggregate, Option.getD_some]⟩, rfl,
    Wire.toNat_queue_of_sampled hsampled, Wire.toNat_standby_of_sampled hsampled,
    Wire.toNat_inFlight_of_sampled hsampled, Wire.toNat_total_of_sampled hsampled, ?_⟩
  simp [Reconciler.report, Wire.lockouts_of_sampled hsampled]

end Reads

section Run

variable {s : Session σ} {api : Api} {exchange : Http.Exchange (StateM σ)}
  {documents : Nat → Documents} {n : Nat} (hs : s.source = api.source exchange)
  (h : ∀ k < n, (s.after k).Reads api exchange (documents k))

include hs h

private theorem latestTree?_eq : s.latestTree? n =
    (Documents.latestTree? documents n).map fun networks => networks.map Wire.Network.config := by
  rw [latestTree?, Documents.latestTree?, ← List.getLast?_map, during, List.map_flatMap]
  congr 1
  refine List.flatMap_congr fun k hk => ?_
  exact (h k (List.mem_range.mp hk)).fetched_eq ((s.after_source k).trans hs)

/-- A run whose first cycle is a fresh monitor's has found a tree. -/
theorem exists_latestTree? (hfresh : s.monitor.reconciler.ledger.cycle = 0) (hn : 0 < n) :
    ∃ networks, Documents.latestTree? documents n = some networks := by
  obtain ⟨report, hreport, _⟩ := (h 0 hn).exists_report hs
  have hdue : (s.after 0).monitor.due = true := (due_after_iff hfresh 0).mpr (by simp)
  have hfetched := fetched_ne_nil_of_due (reply_result_eq_ok_iff.mp hreport).1 hdue
  rw [(h 0 hn).fetched_eq hs, ne_eq, List.map_eq_nil_iff] at hfetched
  rw [← Option.ne_none_iff_exists', Documents.latestTree?, ne_eq, List.getLast?_eq_none_iff,
    List.flatMap_eq_nil_iff]
  exact fun hnone => hfetched (hnone 0 (List.mem_range.mpr hn))

end Run

/-- From the bytes of the service to the reports. If the networks can be listed, the monitor starts.
In any cycle whose requests all find documents there is a report. Its sums are those of the
statistics, and the count that it expects is the number of points that count in the tree found
last, by this cycle or, if it found none, before it. -/
theorem report_of_documents {api : Api} {exchange : Http.Exchange (StateM σ)} (plugin : String)
    (policy : Policy) {world : σ} {discovered : List Wire.Network}
    (hdiscovered : api.Finds exchange Wire.decodeNetworks api.listing world discovered) :
    ∃ s, start (api.source exchange) plugin policy world = .ok s ∧
      (∀ k documents, (s.after k).Reads api exchange documents →
        ∃ report, (s.after k).reply.result = .ok report ∧ report.Sums documents.stats ∧
          (∀ networks, documents.trees.getLast? = some networks → report.expected.toNat =
            min (2 ^ 64 - 1) (Wire.activePoints plugin discovered networks)) ∧
          (documents.trees = [] → report.expected = (s.after k).monitor.expected)) ∧
      ∀ documents n, (∀ k < n, (s.after k).Reads api exchange (documents k)) → ∀ k < n,
        ∃ report networks, (s.after k).reply.result = .ok report ∧
          Documents.latestTree? documents (k + 1) = some networks ∧
          report.expected.toNat =
            min (2 ^ 64 - 1) (Wire.activePoints plugin discovered networks) := by
  obtain ⟨events, hlistings⟩ := hdiscovered.listings
  refine ⟨_, start_of_ok hlistings, ?_⟩
  set s : Session σ := ⟨api.source exchange, ⟨plugin,
    Watched.ofListings (discovered.map Wire.Network.listing) plugin, { policy }⟩,
    api.behind exchange api.listing world⟩
  have hs : s.source = api.source exchange := rfl
  have hwatched : s.monitor.watched =
    Watched.ofListings (discovered.map Wire.Network.listing) plugin := rfl
  refine ⟨fun k documents hreads => ?_, fun documents n hreads k hk => ?_⟩
  · obtain ⟨report, hreport, hexpected, hsums⟩ := hreads.exists_report ((s.after_source k).trans hs)
    rw [expected_next_eq_fetched, hreads.fetched_eq ((s.after_source k).trans hs),
      List.getLast?_map, after_watched, hwatched] at hexpected
    refine ⟨report, hreport, hsums, fun networks hlast => ?_, fun hnone => ?_⟩
    · rw [hexpected, hlast]
      exact Wire.toNat_expected plugin discovered networks
    · rw [hexpected, hnone]
      rfl
  · obtain ⟨report, hreport, hexpected, _⟩ :=
      (hreads k hk).exists_report ((s.after_source k).trans hs)
    have hbegun : ∀ i < k + 1, (s.after i).Reads api exchange (documents i) := fun i hi =>
      hreads i (by omega)
    obtain ⟨networks, hlast⟩ := exists_latestTree? hs hbegun rfl (Nat.succ_pos k)
    refine ⟨report, networks, hreport, hlast, ?_⟩
    rw [hexpected, ← after_succ, expected_after, latestTree?_eq hs hbegun, hlast, hwatched]
    exact Wire.toNat_expected plugin discovered networks

/-- A service of two networks, of which the plugin serves the first, lists them so. -/
def patchyListing : String :=
  "[\x7b\"uuid\":\"a\",\"name\":\"A\",\"plugin_name\":\"modbus\"\x7d," ++
  "\x7b\"uuid\":\"b\",\"name\":\"B\",\"enable\":true\x7d]"

/-- In its tree one flag of the first network is null and another one is missing. -/
def patchyTree : String :=
  "[\x7b\"uuid\":\"a\",\"name\":\"A\",\"enable\":true,\"devices\":[\x7b\"enable\":true," ++
  "\"points\":[\x7b\"enable\":true\x7d,\x7b\"enable\":null\x7d,\x7b\x7d]\x7d]\x7d]"

/-- And one counter of this network is negative. -/
def patchyStats : String :=
  "\x7b\"enable\":true,\"total_poll_queue_length\":3,\"total_standby_points_length\":-5," ++
  "\"total_points_out_for_polling\":0,\"low_priority_lockup_alert\":true\x7d"

def patchy : Http.Exchange (StateM Unit) := fun request =>
  let text :=
    if request.url = Api.atRoot.listing then patchyListing
    else if request.url = Api.atRoot.tree then patchyTree
    else patchyStats
  pure (.response { status := 200, body := some (Text.Utf8.encode text.toList) })

/-- The session that starts on this service. -/
def ofPatchy : Session Unit where
  source := Api.atRoot.source patchy
  monitor := ⟨"modbus", ⟨[⟨⟨"a"⟩, "A"⟩]⟩, ⟨.standard, {}⟩⟩
  world := ()

def patchyDiscovered : List Wire.Network :=
  [{ uuid := "a", name := "A", plugin := "modbus" }, { uuid := "b", name := "B", enable := some true }]

def patchyNetworks : List Wire.Network :=
  [{ uuid := "a", name := "A", enable := some true
     devices := [{ enable := some true, points := [{ enable := some true }, {}, {}] }] }]

/-- The documents of its first cycle, with its statistics as they are read. -/
def patchyDocuments (stats : Wire.QueueStats) : Documents where
  scheduled := some patchyNetworks
  stats := [stats]
  forced := if ofPatchy.account.forced.isSome then some patchyNetworks else none

private theorem finds_patchyDiscovered :
    Api.atRoot.Finds patchy Wire.decodeNetworks Api.atRoot.listing () patchyDiscovered :=
  Api.finds_of_text _ _ patchyListing (by decide +kernel) (by decide) rfl (by decide +kernel)

private theorem finds_patchyNetworks :
    Api.atRoot.Finds patchy Wire.decodeNetworks Api.atRoot.tree () patchyNetworks :=
  Api.finds_of_text _ _ patchyTree (by decide +kernel) (by decide) rfl (by decide +kernel)

private theorem finds_patchyStats :
    ∃ stats, Api.atRoot.FindsAll patchy "modbus" [⟨⟨"a"⟩, "A"⟩] () [stats] ∧
      stats.enable = true ∧ stats.queue = 3 ∧ stats.standby = -5 ∧ stats.outForPolling = 0 ∧
      stats.isLocked = true := by
  have hread : (Wire.QueueStats.shape.decode.run patchyStats).toOption.any (fun stats =>
      stats.enable && stats.queue == 3 && stats.standby == -5 && stats.outForPolling == 0 &&
        stats.isLocked) = true := by
    decide +kernel
  rcases hrun : Wire.QueueStats.shape.decode.run patchyStats with fault | stats
  · rw [hrun] at hread
    cases hread
  · simp only [hrun, Except.toOption, Option.any_some, Bool.and_eq_true, beq_iff_eq, and_assoc] at hread
    exact ⟨stats, .cons (Api.finds_of_text _ _ patchyStats (by decide +kernel) (by decide) rfl hrun) .nil,
      hread⟩

/-- One of the points counts, and the negative counter takes nothing from the other. -/
theorem report_of_patchy :
    Api.atRoot.Finds patchy Wire.decodeNetworks Api.atRoot.listing () patchyDiscovered ∧
      start (Api.atRoot.source patchy) "modbus" .standard () = .ok ofPatchy ∧
      ∃ stats report, ofPatchy.Reads Api.atRoot patchy (patchyDocuments stats) ∧
        stats.standby = -5 ∧ ofPatchy.reply.result = .ok report ∧ report.expected.toNat = 1 ∧
        report.queue.toNat = 3 ∧ report.standby.toNat = 0 ∧ report.total.toNat = 3 ∧
        report.lockouts = true := by
  obtain ⟨stats, hstats, henable, hqueue, hstandby, houtForPolling, hlocked⟩ := finds_patchyStats
  have hstart : start (Api.atRoot.source patchy) "modbus" .standard () = .ok ofPatchy := by
    obtain ⟨events, hlistings⟩ := finds_patchyDiscovered.listings
    exact start_of_ok hlistings
  have hforced (networks : List Wire.Network)
      (h : networks ∈ (patchyDocuments stats).forced) : patchyNetworks = networks := by
    rw [Option.mem_def] at h
    simp only [patchyDocuments, Option.ite_some_none_eq_some] at h
    exact h.2
  have hreads : ofPatchy.Reads Api.atRoot patchy (patchyDocuments stats) := by
    refine ⟨ofPatchy.account_scheduled_isSome, ?_, hstats, ?_, ?_⟩
    · rintro networks ⟨⟩
      exact finds_patchyNetworks
    · rw [patchyDocuments]
      cases ofPatchy.account.forced <;> rfl
    · intro networks hnetworks
      rw [← hforced networks hnetworks, Subsingleton.elim ofPatchy.sampling.2 ()]
      exact finds_patchyNetworks
  have hlast : (patchyDocuments stats).trees.getLast? = some patchyNetworks := by
    rw [Documents.trees, patchyDocuments]
    cases ofPatchy.account.forced <;> rfl
  obtain ⟨s, hs, hcycles, _⟩ :=
    report_of_documents "modbus" .standard finds_patchyDiscovered
  obtain rfl : ofPatchy = s := Except.ok.inj (hstart.symm.trans hs)
  obtain ⟨report, hreport, hsums, hexpected, _⟩ := hcycles 0 (patchyDocuments stats) hreads
  have hsum (counter : Wire.QueueStats → Int) :
      Wire.sumOf counter (patchyDocuments stats).stats = (counter stats).toNat := by
    simp [patchyDocuments, Wire.sumOf, henable]
  refine ⟨finds_patchyDiscovered, hstart, stats, report, hreads, hstandby, hreport, ?_, ?_, ?_, ?_, ?_⟩
  · rw [hexpected _ hlast]
    decide
  · rw [hsums.queue, hsum, hqueue]
    decide
  · rw [hsums.standby, hsum, hstandby]
    decide
  · rw [hsums.total, hsum, hsum, hsum, hqueue, hstandby, houtForPolling]
    decide
  · exact hsums.lockouts.mpr ⟨stats, List.mem_singleton_self stats, henable, hlocked⟩

end Session

end PollAudit
