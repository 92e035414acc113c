import PollAudit.Proofs.Batch.Rearranged
import PollAudit.Proofs.Polling.Sum
import PollAudit.Proofs.Session.Exchange
import PollAudit.Proofs.Session.Streak
import PollAudit.Proofs.Session.World
import PollAudit.Proofs.Tree.Expected

namespace PollAudit

/-- A tree was asked for on both sides or on neither, and the answers are those of one tree in two
orders. -/
def TreesAlike : Option (Reply (List Network)) → Option (Reply (List Network)) → Prop :=
  Option.Rel fun x y => SameOutcome (Rearranges Network.Alike) x.result y.result

namespace TreesAlike

variable {x y : Option (Reply (List Network))}

private theorem failure?_eq (h : TreesAlike x y) :
    x.bind Reply.failure? = y.bind Reply.failure? := by
  cases h with
  | none => rfl
  | @some x y houtcome =>
    rcases x with ⟨x, events⟩
    rcases y with ⟨y, events'⟩
    cases houtcome with
    | ok _ => rfl
    | error failure => rfl

private theorem countOf?_eq (h : TreesAlike x y) {a b : Watched}
    (hwatched : a.entries.Perm b.entries) :
    Account.countOf? a x = Account.countOf? b y := by
  cases h with
  | none => rfl
  | @some x y houtcome =>
    rcases x with ⟨x, events⟩
    rcases y with ⟨y, events'⟩
    cases houtcome with
    | ok hnetworks => exact congrArg some (Snapshot.expected_eq_of_rearranges hnetworks hwatched)
    | error failure => rfl

end TreesAlike

namespace Session

/-- Two sessions that stand alike on sources which differ in orders and delays only. -/
structure Abreast (a b : Session ScriptedSource) : Prop where
  left : a.source = ScriptedSource.source
  right : b.source = ScriptedSource.source
  plugin : a.monitor.plugin = b.monitor.plugin
  watched : a.monitor.watched.entries.Perm b.monitor.watched.entries
  reconciler : a.monitor.reconciler = b.monitor.reconciler
  world : a.world.Rearranged b.world

namespace Abreast

variable {a b : Session ScriptedSource} (h : Abreast a b)
include h

private theorem due : a.monitor.due = b.monitor.due := by
  rw [Monitor.due, Monitor.due, h.reconciler]

/-- The scheduled trees are alike, and so are the worlds behind them. -/
theorem scheduled : TreesAlike a.account.scheduled b.account.scheduled ∧
    a.opening.Rearranged b.opening := by
  rw [account_scheduled, account_scheduled, opening, opening, h.due, h.left, h.right]
  obtain ⟨houtcome, hworld⟩ := h.world.tree
  split
  · exact ⟨.some houtcome, hworld⟩
  · exact ⟨.none, h.world⟩

private theorem scheduledCount?_eq : a.scheduledCount? = b.scheduledCount? :=
  h.scheduled.1.countOf?_eq h.watched

private theorem held_eq : a.held = b.held := by
  have hcount := h.scheduledCount?_eq
  rw [scheduledCount?, scheduledCount?] at hcount
  rw [held, held, Account.held, Account.held, hcount, Monitor.expected, Monitor.expected,
    h.reconciler]

/-- Where the batch of the one cycle succeeds, so does that of the other one. The samples sum up to
the same. -/
theorem sampling {samples : List LiveStats} (hok : a.sampling.1.result = .ok samples) :
    ∃ samples', b.sampling.1.result = .ok samples' ∧
      Aggregate.ofSamples samples = Aggregate.ofSamples samples' ∧
      a.sampling.2.Rearranged b.sampling.2 := by
  rw [Session.sampling, h.left] at hok
  obtain ⟨samples', hok', hperm, hworld⟩ := h.scheduled.2.run _ h.watched hok
  rw [Session.sampling, Session.sampling, h.left, h.right, ← h.plugin]
  exact ⟨samples', hok', Aggregate.ofSamples_eq_of_perm hperm, hworld⟩

section Answered

variable (hok : a.account.failure? = none)
include hok

/-- Where no request of the one cycle fails, the other one has its sampling too, and takes the same
aggregate from it. -/
theorem sampled : b.account.scheduled.bind Reply.failure? = none ∧
    b.account.batch.bind Reply.failure? = none ∧
    a.account.aggregate? = b.account.aggregate? ∧ a.sampling.2.Rearranged b.sampling.2 := by
  obtain ⟨hscheduled, hbatch, _⟩ := Account.failure?_eq_none_iff.mp hok
  have hscheduled' : b.account.scheduled.bind Reply.failure? = none := by
    rw [← h.scheduled.1.failure?_eq, hscheduled]
  obtain ⟨hsampled, _⟩ := next_world_of_sampled hscheduled
  obtain ⟨hsampled', _⟩ := next_world_of_sampled hscheduled'
  rw [hsampled, Option.bind_some] at hbatch
  obtain ⟨samples, hsamples⟩ := Reply.exists_ok hbatch
  obtain ⟨samples', hsamples', haggregate, hworld⟩ := h.sampling hsamples
  refine ⟨hscheduled', ?_, ?_, hworld⟩
  · rw [hsampled', Option.bind_some, Reply.failure?, hsamples']
  · rw [Account.aggregate?, Account.aggregate?, hsampled, hsampled', Option.bind_some,
      Option.bind_some, Reply.value?, Reply.value?, hsamples, hsamples']
    exact congrArg some haggregate

private theorem total?_eq : a.total? = b.total? := by
  rw [total?, total?, Account.total?, Account.total?, (h.sampled hok).2.2.1]

private theorem mismatches_iff : a.Mismatches ↔ b.Mismatches := by
  rw [Mismatches, Mismatches, h.total?_eq hok, h.held_eq]

/-- The tree is asked for anew in both cycles or in neither, and the trees are alike. -/
theorem forced : TreesAlike a.account.forced b.account.forced ∧
    a.next.world.Rearranged b.next.world := by
  obtain ⟨hscheduled', _, _, hsampling⟩ := h.sampled hok
  obtain ⟨_, hworld⟩ := next_world_of_sampled (Account.failure?_eq_none_iff.mp hok).1
  obtain ⟨_, hworld'⟩ := next_world_of_sampled hscheduled'
  have hasked : a.account.forced.isSome ↔ b.account.forced.isSome := by
    rw [forced_isSome_iff, forced_isSome_iff, h.mismatches_iff hok]
  obtain ⟨hnone, hnext⟩ | ⟨reply, hsome, htree⟩ := hworld
  · obtain ⟨hnone', hnext'⟩ | ⟨reply', hsome', _⟩ := hworld'
    · rw [hnone, hnone', hnext, hnext']
      exact ⟨.none, hsampling⟩
    · rw [hnone, hsome'] at hasked
      exact absurd (hasked.mpr rfl) Bool.false_ne_true
  · obtain ⟨hnone', _⟩ | ⟨reply', hsome', htree'⟩ := hworld'
    · rw [hsome, hnone'] at hasked
      exact absurd (hasked.mp rfl) Bool.false_ne_true
    · obtain ⟨houtcome, hnext⟩ := hsampling.tree
      rw [h.left] at htree
      rw [h.right] at htree'
      rw [htree, htree'] at houtcome hnext
      rw [hsome, hsome']
      exact ⟨.some houtcome, hnext⟩

/-- No request of the other cycle fails. -/
theorem answered : b.account.failure? = none := by
  obtain ⟨hscheduled, hbatch, _⟩ := h.sampled hok
  obtain ⟨_, _, hforced⟩ := Account.failure?_eq_none_iff.mp hok
  refine Account.failure?_eq_none_iff.mpr ⟨hscheduled, hbatch, ?_⟩
  rw [← (h.forced hok).1.failure?_eq, hforced]

private theorem moves_eq :
    a.account.moves a.monitor.watched = b.account.moves b.monitor.watched := by
  have hscheduled : a.account.scheduledCount? a.monitor.watched =
      b.account.scheduledCount? b.monitor.watched := h.scheduledCount?_eq
  have hforced : a.account.forcedCount? a.monitor.watched =
      b.account.forcedCount? b.monitor.watched := (h.forced hok).1.countOf?_eq h.watched
  have htotal : a.account.total? = b.account.total? := h.total?_eq hok
  simp only [Account.moves, Account.openingMoves, Account.laterMoves, hscheduled, htotal, hforced]

/-- Two sessions that stand alike do so after a cycle, and have the same report of it. -/
theorem next : Abreast a.next b.next := by
  refine ⟨h.left, h.right, ?_, ?_, ?_, (h.forced hok).2⟩
  · rw [next_plugin, next_plugin, h.plugin]
  · rw [next_watched, next_watched]
    exact h.watched
  · rw [next_monitor, next_monitor, Monitor.reconciler_perform, Monitor.reconciler_perform,
      h.reconciler, h.moves_eq hok]

private theorem reply_eq : ∃ report, a.reply.result = .ok report ∧ b.reply.result = .ok report := by
  refine ⟨_, reply_result_eq_ok_iff.mpr ⟨hok, rfl⟩,
    reply_result_eq_ok_iff.mpr ⟨h.answered hok, ?_⟩⟩
  rw [(h.next hok).reconciler, (h.sampled hok).2.2.1]

end Answered

/-- So they do after any run in which no request of the one session fails. -/
theorem after {n : Nat} (hok : ∀ i < n, (a.after i).account.failure? = none) :
    Abreast (a.after n) (b.after n) := by
  induction n with
  | zero => exact h
  | succ n ih =>
    exact (ih fun i hi => hok i (Nat.lt_succ_of_lt hi)).next (hok n (Nat.lt_succ_self n))

end Abreast

section Start

variable {x y : ScriptedSource} {plugin : String} {policy : Policy} {s : Session ScriptedSource}

/-- Where a session starts on one of two such sources, one starts on the other, and they stand
alike. -/
theorem abreast_of_start (h : x.Rearranged y)
    (hstart : start ScriptedSource.source plugin policy x = .ok s) :
    ∃ t, start ScriptedSource.source plugin policy y = .ok t ∧ Abreast s t := by
  obtain ⟨listings, events, hlistings, hsource, hmonitor⟩ := start_eq_ok hstart
  obtain ⟨hreply, hworld⟩ := Prod.mk.inj hlistings
  have hx : x.listings = .ok listings := congrArg Reply.result hreply
  have houtcome := h.listings
  rw [hx] at houtcome
  obtain ⟨listings', hy, hperm⟩ := houtcome.exists_ok
  have hlistings' : ScriptedSource.source.listings y =
      (⟨.ok listings', []⟩, { y with listingCalls := y.listingCalls + 1 }) := by
    rw [← hy]
    rfl
  refine ⟨_, start_of_ok hlistings', hsource, rfl, ?_, ?_, ?_, ?_⟩
  · rw [hmonitor]
  · rw [hmonitor]
    exact (hperm.filter _).map _
  · rw [hmonitor]
  · rw [← hworld]
    exact ⟨h.listings, h.trees, h.stats, congrArg (· + 1) h.listingCalls, h.treeCalls, h.statsCalls⟩

end Start

/-- Order and timing do not show in a run without failing requests. The order of the listed networks
may differ, that of the networks, devices and points in every tree, and the delays of all counters;
the reports, the states of the reconciler and the numbers of requests are the same. Listed networks
may share a name, and with it a script. -/
theorem course_of_rearranged {x y : ScriptedSource} (h : x.Rearranged y) {plugin : String}
    {policy : Policy} {s : Session ScriptedSource}
    (hstart : start ScriptedSource.source plugin policy x = .ok s) {n : Nat}
    (hanswered : ∀ i < n, (s.after i).Answered) :
    ∃ t, start ScriptedSource.source plugin policy y = .ok t ∧
      (∀ i < n, ∃ report, (s.after i).reply.result = .ok report ∧
        (t.after i).reply.result = .ok report) ∧
      ∀ i ≤ n, (s.after i).monitor.reconciler = (t.after i).monitor.reconciler ∧
        (s.after i).world.treeCalls = (t.after i).world.treeCalls ∧
        (s.after i).world.statsCalls = (t.after i).world.statsCalls := by
  obtain ⟨t, hstart', habreast⟩ := abreast_of_start h hstart
  have hok : ∀ i < n, (s.after i).account.failure? = none :=
    fun i hi => (exists_samples (hanswered i hi)).1
  have hafter {i : Nat} (hi : i ≤ n) : Abreast (s.after i) (t.after i) :=
    habreast.after fun j hj => hok j (Nat.lt_of_lt_of_le hj hi)
  refine ⟨t, hstart', fun i hi => ?_, fun i hi => ?_⟩
  · exact (hafter (Nat.le_of_lt hi)).reply_eq (hok i hi)
  · exact ⟨(hafter hi).reconciler, (hafter hi).world.treeCalls, (hafter hi).world.statsCalls⟩

/-- Three networks to watch, of which the first two have one name and draw on one script. -/
def sharing : ScriptedSource where
  listings := .ok [⟨⟨"a"⟩, "A", "modbus", true⟩, ⟨⟨"x"⟩, "X", "bacnet", true⟩,
    ⟨⟨"b"⟩, "A", "modbus", true⟩, ⟨⟨"c"⟩, "C", "modbus", true⟩]
  trees :=
    [.ok [⟨⟨"a"⟩, "A", "modbus", true, [⟨true, [⟨true⟩, ⟨false⟩]⟩, ⟨false, [⟨true⟩]⟩]⟩,
      ⟨⟨"c"⟩, "C", "modbus", true, [⟨true, [⟨true⟩]⟩]⟩]]
  stats :=
    [("A", [⟨.ok { enabled := true, queue := 1 }, 0⟩, ⟨.ok { enabled := false }, 2⟩,
      ⟨.ok { enabled := true, standby := 3 }, 0⟩]),
     ("C", [⟨.ok { enabled := true, inFlight := 1 }, 1⟩])]

/-- The same networks, listed and configured in another order and answering at other times. -/
def sharingShuffled : ScriptedSource where
  listings := .ok [⟨⟨"c"⟩, "C", "modbus", true⟩, ⟨⟨"b"⟩, "A", "modbus", true⟩,
    ⟨⟨"a"⟩, "A", "modbus", true⟩, ⟨⟨"x"⟩, "X", "bacnet", true⟩]
  trees :=
    [.ok [⟨⟨"c"⟩, "C", "modbus", true, [⟨true, [⟨true⟩]⟩]⟩,
      ⟨⟨"a"⟩, "A", "modbus", true, [⟨false, [⟨true⟩]⟩, ⟨true, [⟨false⟩, ⟨true⟩]⟩]⟩]]
  stats :=
    [("A", [⟨.ok { enabled := true, queue := 1 }, 3⟩, ⟨.ok { enabled := false }, 0⟩,
      ⟨.ok { enabled := true, standby := 3 }, 1⟩]),
     ("C", [⟨.ok { enabled := true, inFlight := 1 }, 0⟩])]

private theorem sharing_rearranged : sharing.Rearranged sharingShuffled where
  listings := .ok (by decide)
  trees := by
    refine .cons (.ok ⟨_, List.Perm.swap _ _ _, .cons ⟨rfl, rfl, rfl, rfl, ?_⟩
      (.cons ⟨rfl, rfl, rfl, rfl, ?_⟩ .nil)⟩) .nil
    · exact ⟨_, .rfl, .cons ⟨rfl, .rfl⟩ .nil⟩
    · exact ⟨_, List.Perm.swap _ _ _, .cons ⟨rfl, .rfl⟩ (.cons ⟨rfl, .swap _ _ _⟩ .nil)⟩
  stats := by
    intro name
    simp only [ScriptedSource.script, sharing, sharingShuffled, List.lookup_cons, List.lookup_nil]
    cases name == "A" <;> cases name == "C" <;> rfl
  listingCalls := rfl
  treeCalls := rfl
  statsCalls := rfl

/-- The session that starts on such networks. -/
def ofSharing : Session ScriptedSource where
  source := ScriptedSource.source
  monitor := ⟨"modbus", ⟨[⟨⟨"a"⟩, "A"⟩, ⟨⟨"b"⟩, "A"⟩, ⟨⟨"c"⟩, "C"⟩]⟩, ⟨.standard, {}⟩⟩
  world := { sharing with listingCalls := 1 }

/-- Its first cycle is in step and its second one is not, in both orders. -/
theorem course_of_sharing :
    start ScriptedSource.source "modbus" .standard sharing = .ok ofSharing ∧
      (∀ i < 2, (ofSharing.after i).Answered) ∧
      ∃ t, start ScriptedSource.source "modbus" .standard sharingShuffled = .ok t ∧
        (∀ i < 2, ∃ report, (ofSharing.after i).reply.result = .ok report ∧
          (t.after i).reply.result = .ok report) ∧
        ∀ i ≤ 2, (ofSharing.after i).monitor.reconciler = (t.after i).monitor.reconciler ∧
          (ofSharing.after i).world.treeCalls = (t.after i).world.treeCalls ∧
          (ofSharing.after i).world.statsCalls = (t.after i).world.statsCalls := by
  have hanswered : ∀ i < 2, ∀ exchange ∈ (ofSharing.after i).exchanges,
      exchange.failure? = none := by decide +kernel
  exact ⟨rfl, hanswered, course_of_rearranged sharing_rearranged rfl hanswered⟩

end Session

end PollAudit
