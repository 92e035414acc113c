import PollAudit.Proofs.Cycle.Outcome

namespace PollAudit

namespace Monitor

variable {σ : Type} {source : Source (StateM σ)} {plugin : String} {policy : Policy}
  {world world' : σ} {events : List Event}

/-- A start that is given a list watches the networks of its plugin. -/
theorem start_of_ok {listings : List Listing}
    (h : source.listings world = (⟨.ok listings, events⟩, world')) :
    Monitor.start source plugin policy world =
      (⟨.ok ⟨plugin, Watched.ofListings listings plugin, { policy }⟩,
        events ++ discoveryEvents plugin listings.length
          (Watched.ofListings listings plugin)⟩, world') := by
  simp only [Monitor.start, bind, StateT.bind, h]
  rfl

/-- A monitor does not start if its networks are not listed. -/
theorem start_of_error {failure : Failure}
    (h : source.listings world = (⟨.error failure, events⟩, world')) :
    Monitor.start source plugin policy world = (⟨.error failure, events⟩, world') := by
  simp only [Monitor.start, bind, StateT.bind, h]
  rfl

end Monitor

/-- A monitor at work on a source, and the world that the source answers from. The world is of
any kind, so that a session stands for every way in which a source can behave. -/
structure Session (σ : Type) where
  source : Source (StateM σ)
  monitor : Monitor
  world : σ

namespace Session

variable {σ : Type}

/-- Discovers the networks and is ready for the first cycle. -/
def start (source : Source (StateM σ)) (plugin : String) (policy : Policy) (world : σ) :
    Except Failure (Session σ) :=
  match Monitor.start source plugin policy world with
  | (⟨.ok monitor, _⟩, world) => .ok ⟨source, monitor, world⟩
  | (⟨.error failure, _⟩, _) => .error failure

variable (s : Session σ)

/-- How the next cycle ends. -/
def reply : Reply CycleReport :=
  (s.monitor.cycle s.source s.world).1.1

/-- The session after the next cycle, whether that succeeded or not. -/
def next : Session σ :=
  let out := s.monitor.cycle s.source s.world
  { s with monitor := out.1.2, world := out.2 }

/-- The session after a number of cycles. -/
def after : Nat → Session σ
  | 0 => s
  | n + 1 => (after n).next

/-- The answers to the requests of the next cycle. -/
def account : Account :=
  (s.monitor.account s.source s.world).1

/-- The count of the next cycle's scheduled tree. -/
def scheduledCount? : Option Count :=
  s.account.scheduledCount? s.monitor.watched

/-- The count that the total of the next cycle is compared with. -/
def held : Count :=
  s.account.held s.monitor

/-- The total of the next cycle. -/
def total? : Option Count :=
  s.account.total?

/-- The count of the tree that the next cycle fetches anew. -/
def forcedCount? : Option Count :=
  s.account.forcedCount? s.monitor.watched

@[simp] theorem after_zero : s.after 0 = s := rfl

/-- The last of some cycles is the next of the session behind the others. -/
@[simp] theorem after_succ (n : Nat) : s.after (n + 1) = (s.after n).next := rfl

/-- The next cycle does to the monitor what its account says. -/
theorem next_monitor :
    s.next.monitor = s.monitor.perform (s.account.moves s.monitor.watched) := by
  rw [next, Monitor.cycle_eq_account]
  rfl

/-- The world behind a cycle is what its requests leave. -/
theorem next_world : s.next.world = (s.monitor.account s.source s.world).2 := by
  rw [next, Monitor.cycle_eq_account]

/-- A cycle ends as its account says, with the reconciler behind it. -/
theorem reply_result : s.reply.result = s.account.result s.next.monitor.reconciler := by
  rw [next_monitor, reply, Monitor.cycle_eq_account]
  rfl

/-- The next cycle notes what its account says, and then its alarm. -/
theorem reply_events :
    s.reply.events = s.account.events s.monitor ++ Monitor.alarm s.reply.result := by
  rw [reply, Monitor.cycle_eq_account]
  rfl

@[simp] theorem next_source : s.next.source = s.source := rfl

/-- A cycle leaves the watched networks alone. -/
@[simp] theorem next_watched : s.next.monitor.watched = s.monitor.watched := by
  rw [next_monitor, Monitor.watched_perform]

/-- A cycle leaves the plugin alone. -/
@[simp] theorem next_plugin : s.next.monitor.plugin = s.monitor.plugin := by
  rw [next_monitor, Monitor.plugin_perform]

/-- A cycle leaves the policy alone. -/
@[simp] theorem next_policy : s.next.monitor.reconciler.policy = s.monitor.reconciler.policy := by
  rw [next_monitor, Monitor.reconciler_perform, Reconciler.policy_perform]

@[simp] theorem after_source (n : Nat) : (s.after n).source = s.source := by
  induction n with
  | zero => rfl
  | succ n ih => rw [after_succ, next_source, ih]

/-- No number of cycles changes the watched networks. -/
@[simp] theorem after_watched (n : Nat) : (s.after n).monitor.watched = s.monitor.watched := by
  induction n with
  | zero => rfl
  | succ n ih => rw [after_succ, next_watched, ih]

@[simp] theorem after_plugin (n : Nat) : (s.after n).monitor.plugin = s.monitor.plugin := by
  induction n with
  | zero => rfl
  | succ n ih => rw [after_succ, next_plugin, ih]

@[simp] theorem after_policy (n : Nat) :
    (s.after n).monitor.reconciler.policy = s.monitor.reconciler.policy := by
  induction n with
  | zero => rfl
  | succ n ih => rw [after_succ, next_policy, ih]

variable {s}

/-- A cycle with a report had no failing request, and the report is the reconciler's. -/
theorem reply_result_eq_ok_iff {report : CycleReport} :
    s.reply.result = .ok report ↔ s.account.failure? = none ∧
      s.next.monitor.reconciler.report (s.account.aggregate?.getD {}) = report := by
  rw [reply_result, Account.result]
  split
  · rename_i hfailure
    simp [hfailure]
  · rename_i hfailure
    simp [hfailure]

/-- A cycle that misses its scheduled tree does not sample. -/
theorem account_batch_eq_none {failure : Failure}
    (h : s.account.scheduled.bind Reply.failure? = some failure) : s.account.batch = none := by
  rw [← Option.not_isSome_iff_eq_none]
  intro hsampled
  have hnone : s.account.scheduled.bind Reply.failure? = none :=
    (Monitor.account_batch_isSome_iff s.source s.monitor s.world).mp hsampled
  rw [h] at hnone
  cases hnone

/-- A cycle without failing requests has a total. -/
theorem exists_aggregate? (h : s.account.failure? = none) :
    ∃ aggregate, s.account.aggregate? = some aggregate := by
  obtain ⟨hscheduled, hbatch, _⟩ := Account.failure?_eq_none_iff.mp h
  have hsome : s.account.batch.isSome :=
    (Monitor.account_batch_isSome_iff s.source s.monitor s.world).mpr hscheduled
  obtain ⟨⟨failure | samples, events⟩, hreply⟩ := Option.isSome_iff_exists.mp hsome
  · rw [hreply] at hbatch
    cases hbatch
  · exact ⟨Aggregate.ofSamples samples, by rw [Account.aggregate?, hreply]; rfl⟩

/-- The total of a cycle is that of its aggregate. -/
theorem total?_of_aggregate {aggregate : Aggregate} (h : s.account.aggregate? = some aggregate) :
    s.total? = some aggregate.total :=
  congrArg (Option.map Aggregate.total) h

/-- A report is what the reconciler says of the counters that the cycle summed up. -/
theorem exists_aggregate_of_reply {report : CycleReport} (h : s.reply.result = .ok report) :
    ∃ aggregate, s.account.aggregate? = some aggregate ∧ s.total? = some aggregate.total ∧
      s.next.monitor.reconciler.report aggregate = report := by
  obtain ⟨hok, hreport⟩ := reply_result_eq_ok_iff.mp h
  obtain ⟨aggregate, haggregate⟩ := exists_aggregate? hok
  rw [haggregate, Option.getD_some] at hreport
  exact ⟨aggregate, haggregate, total?_of_aggregate haggregate, hreport⟩

/-- In a cycle without failing requests the tree is fetched anew exactly when the total differs
from the count it is compared with. -/
theorem forcedCount?_isSome_iff (h : s.account.failure? = none) :
    s.forcedCount?.isSome ↔ ∃ total, s.total? = some total ∧ total ≠ s.held := by
  obtain ⟨_, _, hforced⟩ := Account.failure?_eq_none_iff.mp h
  rw [forcedCount?, Account.forcedCount?, Account.countOf?_isSome hforced]
  exact Monitor.account_forced_isSome_iff s.source s.monitor s.world

/-- A scheduled tree is asked for exactly when one is due. -/
theorem account_scheduled_isSome (s : Session σ) :
    s.account.scheduled.isSome = s.monitor.due :=
  Monitor.account_scheduled_isSome s.source s.monitor s.world

/-- In a cycle without failing requests a scheduled tree is counted exactly when one is due. -/
theorem scheduledCount?_isSome (h : s.account.failure? = none) :
    s.scheduledCount?.isSome = s.monitor.due := by
  obtain ⟨hscheduled, _, _⟩ := Account.failure?_eq_none_iff.mp h
  rw [scheduledCount?, Account.scheduledCount?, Account.countOf?_isSome hscheduled,
    account_scheduled_isSome]

section Start

variable {source : Source (StateM σ)} {plugin : String} {policy : Policy} {world : σ}

/-- A session starts on the networks that are listed, with a fresh reconciler. -/
theorem start_of_ok {listings : List Listing} {events : List Event} {world' : σ}
    (h : source.listings world = (⟨.ok listings, events⟩, world')) :
    start source plugin policy world =
      .ok ⟨source, ⟨plugin, Watched.ofListings listings plugin, { policy }⟩, world'⟩ := by
  rw [start, Monitor.start_of_ok h]

theorem start_of_error {failure : Failure} {events : List Event} {world' : σ}
    (h : source.listings world = (⟨.error failure, events⟩, world')) :
    start source plugin policy world = .error failure := by
  rw [start, Monitor.start_of_error h]

/-- A session starts with a fresh reconciler and with the listed networks of the plugin. -/
theorem start_eq_ok (h : start source plugin policy world = .ok s) :
    ∃ listings events, source.listings world = (⟨.ok listings, events⟩, s.world) ∧
      s.source = source ∧
      s.monitor = ⟨plugin, Watched.ofListings listings plugin, { policy }⟩ := by
  rcases hlistings : source.listings world with ⟨⟨failure | listings, events⟩, world'⟩
  · rw [start_of_error hlistings] at h
    cases h
  · rw [start_of_ok hlistings] at h
    cases h
    exact ⟨listings, events, rfl, rfl, rfl⟩

/-- A session starts with a fresh reconciler. -/
theorem start_reconciler (h : start source plugin policy world = .ok s) :
    s.monitor.reconciler = { policy } := by
  obtain ⟨_, _, _, _, hmonitor⟩ := start_eq_ok h
  rw [hmonitor]

end Start

end Session

end PollAudit
