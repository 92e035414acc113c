import PollAudit.Proofs.Session.Alarm
import PollAudit.Proofs.Session.Exchange

namespace PollAudit

/-- The same policy with another threshold. -/
def Policy.withThreshold (policy : Policy) (threshold : Streak) : Policy :=
  { policy with escalateAfter := threshold }

namespace Reconciler

/-- The same reconciler with another threshold. -/
def withThreshold (r : Reconciler) (threshold : Streak) : Reconciler :=
  { r with policy := r.policy.withThreshold threshold }

variable (r : Reconciler) (threshold : Streak)

/-- No operation looks at the threshold. -/
theorem move_withThreshold (move : Move) :
    (r.withThreshold threshold).move move = (r.move move).withThreshold threshold := by
  cases move with
  | begin => rfl
  | apply count =>
    by_cases h : count = r.ledger.expected
    · simp [Reconciler.move, applyExpected, withThreshold, h]
    · simp [Reconciler.move, applyExpected, withThreshold, h]
  | observe total =>
    by_cases h : total = r.ledger.expected
    · simp [Reconciler.move, observe, withThreshold, h]
    · simp [Reconciler.move, observe, withThreshold, h]

private theorem perform_withThreshold (moves : List Move) :
    (r.withThreshold threshold).perform moves = (r.perform moves).withThreshold threshold := by
  induction moves generalizing r with
  | nil => rfl
  | cons move moves ih => rw [perform_cons, perform_cons, move_withThreshold, ih]

/-- A report depends on the threshold in what it calls incorrect and in nothing else. -/
theorem report_withThreshold (aggregate : Aggregate) :
    (r.withThreshold threshold).report aggregate =
      { r.report aggregate with incorrect := (r.withThreshold threshold).escalated } := rfl

/-- A lower threshold lets through what a higher one does. -/
theorem escalated_of_le {low high : Streak} (hle : low ≤ high) {count : Count}
    (h : (r.withThreshold high).escalated = some count) :
    (r.withThreshold low).escalated = some count := by
  unfold escalated at h ⊢
  split at h
  · rename_i hreached
    exact (if_pos (UInt32.le_trans hle hreached)).trans h
  · cases h

/-- The two least thresholds are one to a reconciler that remembers no total without a streak. -/
theorem escalated_zero_eq_one (h : r.ledger.mismatches = 0 → r.ledger.lastMismatch = none) :
    (r.withThreshold 0).escalated = (r.withThreshold 1).escalated := by
  change (if (0 : Streak) ≤ r.ledger.mismatches then r.ledger.lastMismatch else none) =
    if (1 : Streak) ≤ r.ledger.mismatches then r.ledger.lastMismatch else none
  simp only [UInt32.le_iff_toNat_le, UInt32.toNat_zero, UInt32.toNat_one, Nat.zero_le, if_true]
  split
  · rfl
  · rename_i hnone
    refine h (UInt32.toNat_inj.mp ?_)
    rw [UInt32.toNat_zero]
    omega

end Reconciler

/-- The same monitor with another threshold. -/
def Monitor.withThreshold (monitor : Monitor) (threshold : Streak) : Monitor :=
  { monitor with reconciler := monitor.reconciler.withThreshold threshold }

private theorem Monitor.perform_withThreshold (monitor : Monitor) (threshold : Streak)
    (moves : List Move) :
    (monitor.withThreshold threshold).perform moves =
      (monitor.perform moves).withThreshold threshold := by
  simp only [perform, withThreshold, Reconciler.perform_withThreshold]

/-- The report without what it calls incorrect. -/
def CycleReport.cleared (report : CycleReport) : CycleReport :=
  { report with incorrect := none }

/-- Two cycles end in the same way and note the same, apart from what they call incorrect and the
alarm about it. What the second one calls incorrect, the first one does too. -/
structure Filters (first second : Reply CycleReport) : Prop where
  result : first.result.map CycleReport.cleared = second.result.map CycleReport.cleared
  events : ∃ events, first.events = events ++ Monitor.alarm first.result ∧
    second.events = events ++ Monitor.alarm second.result
  kept : ∀ report count, second.result = .ok report → report.incorrect = some count →
    first = second

namespace Session

variable {σ : Type} (s : Session σ) (threshold : Streak)

/-- The same session with another threshold. -/
def withThreshold : Session σ :=
  { s with monitor := s.monitor.withThreshold threshold }

/-- The requests of a cycle and their answers do not depend on the threshold. -/
theorem account_withThreshold : (s.withThreshold threshold).account = s.account := rfl

private theorem exchanges_withThreshold : (s.withThreshold threshold).exchanges = s.exchanges := by
  rw [exchanges_eq, exchanges_eq]
  rfl

private theorem next_withThreshold :
    (s.withThreshold threshold).next = s.next.withThreshold threshold := by
  have hmonitor : (s.withThreshold threshold).next.monitor =
      s.next.monitor.withThreshold threshold := by
    rw [next_monitor, next_monitor, account_withThreshold]
    exact Monitor.perform_withThreshold ..
  have hworld : (s.withThreshold threshold).next.world = s.next.world := by
    rw [next_world, next_world]
    rfl
  calc (s.withThreshold threshold).next
      = ⟨s.source, (s.withThreshold threshold).next.monitor,
          (s.withThreshold threshold).next.world⟩ := rfl
    _ = s.next.withThreshold threshold := by rw [hmonitor, hworld]; rfl

/-- However long a session has gone on, failed cycles included, it is the same under another
threshold. -/
theorem after_withThreshold (n : Nat) :
    (s.withThreshold threshold).after n = (s.after n).withThreshold threshold := by
  induction n with
  | zero => rfl
  | succ n ih => rw [after_succ, ih, next_withThreshold, after_succ]

private theorem result_withThreshold : (s.withThreshold threshold).reply.result =
    s.account.result (s.next.monitor.reconciler.withThreshold threshold) := by
  rw [reply_result, next_withThreshold]
  rfl

private theorem events_withThreshold : (s.withThreshold threshold).reply.events =
    s.account.events s.monitor ++ Monitor.alarm (s.withThreshold threshold).reply.result := by
  rw [reply_events, account_withThreshold, Account.events]
  simp only [withThreshold, Monitor.perform_withThreshold]
  rfl

variable {s} {low high : Streak}

/-- What is noted depends on the threshold only as far as the result does. -/
theorem reply_eq_of_result
    (h : (s.withThreshold low).reply.result = (s.withThreshold high).reply.result) :
    (s.withThreshold low).reply = (s.withThreshold high).reply := by
  have hevents : (s.withThreshold low).reply.events = (s.withThreshold high).reply.events := by
    rw [events_withThreshold, events_withThreshold, h]
  calc (s.withThreshold low).reply
      = ⟨(s.withThreshold low).reply.result, (s.withThreshold low).reply.events⟩ := rfl
    _ = (s.withThreshold high).reply := by rw [h, hevents]

/-- A cycle under a low threshold reports what it reports under a higher one, and perhaps more. -/
theorem filters_of_le (hle : low ≤ high) :
    Filters (s.withThreshold low).reply (s.withThreshold high).reply where
  result := by
    rw [result_withThreshold, result_withThreshold, Account.result, Account.result]
    cases s.account.failure? <;> rfl
  events := ⟨_, s.events_withThreshold low, s.events_withThreshold high⟩
  kept report count hreport hcount := by
    apply reply_eq_of_result
    rw [result_withThreshold, Account.result] at hreport ⊢
    rw [result_withThreshold, Account.result]
    cases hfailure : s.account.failure? with
    | some failure => rfl
    | none =>
      rw [hfailure] at hreport
      obtain rfl := Except.ok.inj hreport
      have hhigh : (s.next.monitor.reconciler.withThreshold high).escalated = some count := hcount
      have hlow := Reconciler.escalated_of_le _ hle hhigh
      simp only [Reconciler.report_withThreshold, hlow, hhigh]

/-- A cycle that did not fail remembers a total only together with a streak. -/
theorem lastMismatch_next (hok : s.account.failure? = none) (hnone : s.next.streak = 0) :
    s.next.monitor.reconciler.ledger.lastMismatch = none := by
  have hother : ¬ (s.Mismatches ∧ ¬ s.ForcedChange) := by
    rw [← one_le_streak_next_iff hok, hnone]
    exact Nat.not_succ_le_zero 0
  exact (ledger_next_of_not_mismatch hok hother).2

private theorem reply_zero_eq_one (s : Session σ) :
    (s.withThreshold 0).reply = (s.withThreshold 1).reply := by
  apply reply_eq_of_result
  rw [result_withThreshold, result_withThreshold, Account.result, Account.result]
  cases hfailure : s.account.failure? with
  | some failure => rfl
  | none =>
    have hescalated := Reconciler.escalated_zero_eq_one _ (lastMismatch_next hfailure)
    simp only [Reconciler.report_withThreshold, hescalated]

/-- A start does not look at the threshold. -/
theorem start_withThreshold (source : Source (StateM σ)) (plugin : String) (policy : Policy)
    (world : σ) (threshold : Streak) :
    start source plugin (policy.withThreshold threshold) world =
      (start source plugin policy world).map (withThreshold · threshold) := by
  rcases hlistings : source.listings world with ⟨⟨failure | listings, events⟩, world'⟩
  · rw [start_of_error hlistings, start_of_error hlistings]
    rfl
  · rw [start_of_ok hlistings, start_of_ok hlistings]
    rfl

/-- The threshold filters what is reported and does nothing else. Two sessions that differ in it
only start alike, and however long they go on, through failed cycles too, they make the same
requests, get the same answers and stand alike. Their cycles end in the same way and note the same,
apart from what is called incorrect and the alarm about it, and what is called incorrect under the
higher threshold is so under the lower one. Thresholds zero and one do not differ at all. -/
theorem course_of_threshold :
    (∀ (source : Source (StateM σ)) (plugin : String) (policy : Policy) (world : σ)
      (threshold : Streak), start source plugin (policy.withThreshold threshold) world =
        (start source plugin policy world).map (withThreshold · threshold)) ∧
    (∀ (s : Session σ) (low high : Streak), low ≤ high → ∀ n,
      let quick := (s.withThreshold low).after n
      let slow := (s.withThreshold high).after n
      slow = quick.withThreshold high ∧ slow.exchanges = quick.exchanges ∧
        Filters quick.reply slow.reply) ∧
    ∀ (s : Session σ) (n : Nat),
      let zero := (s.withThreshold 0).after n
      let one := (s.withThreshold 1).after n
      one = zero.withThreshold 1 ∧ one.exchanges = zero.exchanges ∧ one.reply = zero.reply := by
  have hsame (s : Session σ) (first second : Streak) (n : Nat) :
      (s.withThreshold second).after n =
          ((s.withThreshold first).after n).withThreshold second ∧
        ((s.withThreshold second).after n).exchanges =
          ((s.withThreshold first).after n).exchanges := by
    simp only [after_withThreshold, exchanges_withThreshold, and_true]
    rfl
  refine ⟨start_withThreshold, ?_, ?_⟩
  · intro s low high hle n quick slow
    refine ⟨(hsame s low high n).1, (hsame s low high n).2, ?_⟩
    simp only [quick, slow, after_withThreshold]
    exact filters_of_le hle
  · intro s n zero one
    refine ⟨(hsame s 0 1 n).1, (hsame s 0 1 n).2, ?_⟩
    simp only [zero, one, after_withThreshold]
    exact (reply_zero_eq_one _).symm

/-- A network with two points of which one is missing. Its second request for counters times out. -/
def stumbling : ScriptedSource where
  listings := .ok [⟨⟨"a"⟩, "A", "modbus", true⟩]
  trees := [.ok [⟨⟨"a"⟩, "A", "modbus", true, [⟨true, [⟨true⟩, ⟨true⟩]⟩]⟩]]
  stats :=
    [("A", [⟨.ok { enabled := true, standby := 1 }, 0⟩, ⟨.error (.timeout "A"), 0⟩,
      ⟨.ok { enabled := true, standby := 1 }, 0⟩])]

/-- The session that starts on such a network. -/
def ofStumbling : Session ScriptedSource where
  source := ScriptedSource.source
  monitor := ⟨"modbus", ⟨[⟨⟨"a"⟩, "A"⟩]⟩, ⟨.standard, {}⟩⟩
  world := { stumbling with listingCalls := 1 }

/-- The report of its third cycle. -/
def stumblingReport : CycleReport where
  cycle := 3
  lockouts := false
  expected := 2
  total := 1
  inFlight := 0
  queue := 0
  standby := 1
  phase := .mismatched 2
  incorrect := some 1

/-- Behind the failed cycle the second mismatch is reported under a threshold of two, and so it is
under a threshold of one, where the first one was reported already. -/
theorem course_of_stumbling :
    (1 : Streak) ≤ 2 ∧
      ((ofStumbling.withThreshold 2).after 1).reply.result = .error (.timeout "A") ∧
      ((ofStumbling.withThreshold 2).after 2).reply.result = .ok stumblingReport ∧
      ((ofStumbling.withThreshold 1).after 2).reply =
        ((ofStumbling.withThreshold 2).after 2).reply ∧
      ((ofStumbling.withThreshold 1).after 0).reply.result ≠
        ((ofStumbling.withThreshold 2).after 0).reply.result := by
  have hle : (1 : Streak) ≤ 2 := by decide
  have hreport : ((ofStumbling.withThreshold 2).after 2).reply.result = .ok stumblingReport := by
    decide +kernel
  obtain ⟨_, hfilters, _⟩ := @course_of_threshold ScriptedSource
  obtain ⟨_, _, hfilters⟩ := hfilters ofStumbling 1 2 hle 2
  exact ⟨hle, by decide +kernel, hreport, hfilters.kept _ 1 hreport rfl, by decide +kernel⟩

end Session

end PollAudit
