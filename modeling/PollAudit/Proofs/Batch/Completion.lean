import PollAudit.Proofs.Batch.Race
import PollAudit.Proofs.Warning

namespace PollAudit.Batch

/-- The requests that a batch sent, in the order in which their results are found: by the polls they
keep waiting for, and by position among those that wait for as many. -/
def completed (sent : List Pending) : List Pending :=
  sent.mergeSort fun first second => first.delay ≤ second.delay

section Order

variable {sent : List Pending}

private theorem delay_trans (first second third : Pending)
    (hfirst : decide (first.delay ≤ second.delay) = true)
    (hsecond : decide (second.delay ≤ third.delay) = true) :
    decide (first.delay ≤ third.delay) = true :=
  decide_eq_true (Nat.le_trans (of_decide_eq_true hfirst) (of_decide_eq_true hsecond))

private theorem delay_total (first second : Pending) :
    (decide (first.delay ≤ second.delay) || decide (second.delay ≤ first.delay)) = true := by
  rw [Bool.or_eq_true, decide_eq_true_iff, decide_eq_true_iff]
  exact Nat.le_total ..

private theorem completed_perm (sent : List Pending) : (completed sent).Perm sent :=
  List.mergeSort_perm ..

private theorem pairwise_completed (sent : List Pending) :
    (completed sent).Pairwise fun first second => first.delay ≤ second.delay := by
  refine (List.pairwise_mergeSort delay_trans delay_total sent).imp ?_
  intro first second hle
  exact of_decide_eq_true hle

/-- Requests that wait for as many polls keep their order. -/
theorem filter_completed (sent : List Pending) (k : Nat) :
    (completed sent).filter (·.delay = k) = sent.filter (·.delay = k) := by
  have hsorted : (sent.filter (·.delay = k)).Pairwise
      fun first second => decide (first.delay ≤ second.delay) = true := by
    refine List.pairwise_of_forall_mem_list fun first hfirst second hsecond => ?_
    simp only [List.mem_filter, decide_eq_true_eq] at hfirst hsecond ⊢
    omega
  have hsublist : (sent.filter (·.delay = k)).Sublist (completed sent) :=
    List.sublist_mergeSort delay_trans delay_total hsorted List.filter_sublist
  have hkept := hsublist.filter (·.delay = k)
  simp only [List.filter_filter, Bool.and_self] at hkept
  exact (hkept.eq_of_length ((completed_perm sent).filter _).length_eq.symm).symm

/-- Requests in the order of their waiting are those that wait for less than `n` polls, and then
those that wait for `n`. -/
theorem filter_append_filter {n : Nat}
    (hsorted : sent.Pairwise fun first second => first.delay ≤ second.delay)
    (hle : ∀ pending ∈ sent, pending.delay ≤ n) :
    sent.filter (·.delay < n) ++ sent.filter (·.delay = n) = sent := by
  induction sent with
  | nil => rfl
  | cons pending rest ih =>
    obtain ⟨hleast, hrest⟩ := List.pairwise_cons.mp hsorted
    obtain ⟨hpending, hothers⟩ := List.forall_mem_cons.mp hle
    rcases Nat.lt_or_eq_of_le hpending with hlt | heq
    · rw [List.filter_cons_of_pos (by simpa using hlt),
        List.filter_cons_of_neg (by simpa using hlt.ne), List.cons_append, ih hrest hothers]
    · have hall : ∀ other ∈ pending :: rest, other.delay = n := by
        refine List.forall_mem_cons.mpr ⟨heq, fun other hother => ?_⟩
        exact Nat.le_antisymm (hothers other hother) (heq ▸ hleast other hother)
      rw [List.filter_eq_nil_iff.mpr fun other hother => by simp [hall other hother],
        List.filter_eq_self.mpr fun other hother => by simp [hall other hother], List.nil_append]

/-- Requests in the order of their waiting are found round by round. -/
theorem flatMap_rounds {n : Nat}
    (hsorted : sent.Pairwise fun first second => first.delay ≤ second.delay)
    (hlt : ∀ pending ∈ sent, pending.delay < n) :
    ((List.range n).flatMap fun k => sent.filter (·.delay = k)) = sent := by
  induction n generalizing sent with
  | zero =>
    cases sent with
    | nil => rfl
    | cons pending rest => exact absurd (hlt pending List.mem_cons_self) (Nat.not_lt_zero _)
  | succ n ih =>
    have hearlier : ((List.range n).flatMap fun k => sent.filter (·.delay = k)) =
        sent.filter (·.delay < n) := by
      refine (List.flatMap_congr fun k hk => ?_).trans
        (ih (hsorted.filter (·.delay < n)) (by simp))
      rw [List.filter_filter]
      refine List.filter_congr fun pending _ => ?_
      have := List.mem_range.mp hk
      by_cases hdelay : pending.delay = k
      · simp [hdelay, this]
      · simp [hdelay]
    rw [List.range_succ, List.flatMap_append, hearlier, List.flatMap_singleton]
    exact filter_append_filter hsorted fun pending hpending =>
      Nat.le_of_lt_succ (hlt pending hpending)

end Order

/-- The warning that the `k`-th poll of a request brings. -/
def Slot.alertsAt (k : Nat) (slot : Slot) : List Event :=
  if slot.delay = k then slot.result.toOption.elim [] LiveStats.alerts else []

namespace Slot

private theorem atLeast_poll (slot : Slot) : Event.atLeast .warn slot.poll.2 = slot.alertsAt 1 := by
  rcases slot with ⟨_ | polls, failure | stats⟩ | result
  · rfl
  · exact stats.atLeast_events
  · rfl
  · rfl
  · rfl

private theorem alertsAt_poll (slot : Slot) (k : Nat) :
    slot.poll.1.alertsAt (k + 1) = slot.alertsAt (k + 1 + 1) := by
  rw [alertsAt, alertsAt, delay_poll, result_poll]
  exact if_congr (by omega) rfl rfl

private theorem alertsAt_ofPending (pending : Pending) (k : Nat) :
    (ofPending pending).alertsAt k = if pending.delay = k then pending.alerts else [] := by
  rw [alertsAt, delay_ofPending, result_ofPending]
  rfl

/-- The poll that sends a request is its first one. -/
theorem atLeast_sent (pending : Pending) :
    Event.atLeast .warn (match ofPending pending with
      | .finished (.ok stats) => stats.events
      | _ => []) = (ofPending pending).alertsAt 0 := by
  rcases ofPending pending with ⟨polls, result⟩ | failure | stats
  · rfl
  · rfl
  · exact stats.atLeast_events

end Slot

section Warnings

variable {sent : List Pending}

private theorem flatMap_alertsAt (sent : List Pending) (k : Nat) :
    (sent.map Slot.ofPending).flatMap (Slot.alertsAt k) =
      (sent.filter (·.delay = k)).flatMap Pending.alerts := by
  rw [List.flatMap_map]
  induction sent with
  | nil => rfl
  | cons pending rest ih =>
    rw [List.flatMap_cons, ih, Slot.alertsAt_ofPending]
    by_cases hdelay : pending.delay = k
    · rw [if_pos hdelay, List.filter_cons_of_pos (by simpa using hdelay), List.flatMap_cons]
    · rw [if_neg hdelay, List.filter_cons_of_neg (by simpa using hdelay), List.nil_append]

/-- The rounds of a batch whose requests all find counters warn of them as they are found. -/
theorem atLeast_rounds (gathering : Gathering) (n : Nat) {slots : List Slot}
    {samples : List LiveStats} (h : slots.map Slot.result = samples.map .ok) :
    Event.atLeast .warn (rounds gathering n slots).events =
      (List.range n).flatMap fun k => slots.flatMap (Slot.alertsAt (k + 1)) := by
  induction n generalizing slots with
  | zero => rfl
  | succ n ih =>
    rw [rounds_succ_of_ok gathering n h, List.range_succ_eq_map, List.flatMap_cons,
      List.flatMap_map, Event.atLeast_append, Event.atLeast_flatMap,
      ih ((map_result_poll slots).trans h)]
    simp only [Slot.atLeast_poll, List.flatMap_map, Slot.alertsAt_poll, Nat.succ_eq_add_one]

private theorem interleaves_sendEvents (sent : List Pending) :
    Interleaves (sent.flatMap fun pending => Event.atLeast .warn pending.reply.events)
      ((sent.map Slot.ofPending).flatMap (Slot.alertsAt 0))
      (Event.atLeast .warn (sendEvents sent)) := by
  rw [sendEvents, Event.atLeast_flatMap, List.flatMap_map]
  refine .flatMap (fun pending => ?_) sent
  rw [Event.atLeast_append, ← Slot.atLeast_sent]
  exact .append_left _ _

/-- A batch that succeeds warns of every stalled network, in the order in which the counters come
in. Only what its requests warn of themselves stands between these warnings. -/
theorem interleaves_settle (gathering : Gathering) {samples : List LiveStats}
    (h : sent.map (·.reply.result) = samples.map .ok) :
    Interleaves (sent.flatMap fun pending => Event.atLeast .warn pending.reply.events)
      ((completed sent).flatMap Pending.alerts)
      (Event.atLeast .warn (settle gathering sent).events) := by
  have hslots : (sent.map Slot.ofPending).map Slot.result = samples.map .ok := by
    rw [map_result_ofPending, h]
  have hrounds : (completed sent).flatMap Pending.alerts =
      (List.range (span (sent.map Slot.ofPending) + 1)).flatMap fun k =>
        (sent.map Slot.ofPending).flatMap (Slot.alertsAt k) := by
    have hlt : ∀ pending ∈ completed sent,
        pending.delay < span (sent.map Slot.ofPending) + 1 := by
      intro pending hpending
      rw [← Slot.delay_ofPending]
      exact Nat.lt_succ_of_le
        (le_span (List.mem_map_of_mem ((completed_perm sent).mem_iff.mp hpending)))
    rw [← flatMap_rounds (pairwise_completed sent) hlt, List.flatMap_assoc]
    simp only [filter_completed, flatMap_alertsAt]
  rw [settle_of_ok h, hrounds, List.range_succ_eq_map, List.flatMap_cons,
    List.flatMap_map Nat.succ, Event.atLeast_append, atLeast_rounds gathering _ hslots]
  exact (interleaves_sendEvents sent).append_right _

private theorem map_alerts {samples : List LiveStats}
    (h : sent.map (·.reply.result) = samples.map .ok) :
    sent.map Pending.alerts = samples.map LiveStats.alerts := by
  let alertsOf (result : Except Failure LiveStats) : List Event :=
    result.toOption.elim [] LiveStats.alerts
  calc sent.map Pending.alerts = (sent.map (·.reply.result)).map alertsOf := by
        rw [List.map_map]
        rfl
    _ = samples.map LiveStats.alerts := by
        rw [h, List.map_map]
        rfl

/-- A batch has nothing to warn of exactly if none of its counters are of a stalled network. -/
theorem flatMap_alerts_eq_nil_iff {samples : List LiveStats}
    (h : sent.map (·.reply.result) = samples.map .ok) :
    (completed sent).flatMap Pending.alerts = [] ↔ ∀ stats ∈ samples, stats.alerts = [] := by
  calc (completed sent).flatMap Pending.alerts = []
      ↔ ∀ pending ∈ sent, pending.alerts = [] := by
        simp only [List.flatMap_eq_nil_iff, (completed_perm sent).mem_iff]
    _ ↔ ∀ alerts ∈ sent.map Pending.alerts, alerts = [] := by rw [List.forall_mem_map]
    _ ↔ ∀ stats ∈ samples, stats.alerts = [] := by rw [map_alerts h, List.forall_mem_map]

end Warnings

end PollAudit.Batch
