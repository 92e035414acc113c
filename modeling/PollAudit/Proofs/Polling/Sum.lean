import PollAudit.Polling.Aggregate
import PollAudit.Proofs.Count

namespace PollAudit

/-- The sum of a counter over the enabled samples. -/
def LiveStats.sumOf (counter : LiveStats → Count) (samples : List LiveStats) : Nat :=
  ((samples.filter (·.enabled)).map fun stats => (counter stats).toNat).sum

namespace LiveStats

variable {counter : LiveStats → Count} {stats : LiveStats} {rest : List LiveStats}

@[simp] theorem sumOf_nil : sumOf counter [] = 0 := rfl

/-- An enabled network adds its counter to the sum. -/
theorem sumOf_cons_of_enabled (h : stats.enabled = true) :
    sumOf counter (stats :: rest) = (counter stats).toNat + sumOf counter rest := by
  rw [sumOf, List.filter_cons_of_pos h]
  rfl

/-- A disabled network adds nothing to the sum. -/
theorem sumOf_cons_of_disabled (h : stats.enabled = false) :
    sumOf counter (stats :: rest) = sumOf counter rest := by
  rw [sumOf, List.filter_cons_of_neg (by simp [h])]
  rfl

/-- The total of a network is the sum of its three counters, cut off at the largest count. -/
theorem toNat_total (stats : LiveStats) :
    stats.total.toNat =
      min (2 ^ 64 - 1) (stats.queue.toNat + stats.standby.toNat + stats.inFlight.toNat) := by
  rw [total, Count.toNat_plus, Count.toNat_plus]
  omega

/-- Cutting every total at the greatest count does not change the cut sum. -/
theorem sumOf_total (samples : List LiveStats) :
    min (2 ^ 64 - 1) (sumOf total samples) =
      min (2 ^ 64 - 1) (sumOf queue samples + sumOf standby samples + sumOf inFlight samples) := by
  induction samples with
  | nil => rfl
  | cons stats rest ih =>
    cases h : stats.enabled with
    | false => simp only [sumOf_cons_of_disabled h, ih]
    | true =>
      simp only [sumOf_cons_of_enabled h, toNat_total]
      omega

end LiveStats

namespace Aggregate

/-- A field of an aggregate that takes in one counter of every sample of some kind is the sum of
that counter over these samples, cut at the greatest count. -/
theorem toNat_foldl_absorb (sum : Aggregate → Count) (takes : LiveStats → Bool)
    (counter : LiveStats → Count)
    (habsorb : ∀ aggregate stats, sum (absorb aggregate stats) =
      if takes stats then (sum aggregate).plus (counter stats) else sum aggregate)
    (samples : List LiveStats) (aggregate : Aggregate) :
    (sum (samples.foldl absorb aggregate)).toNat =
      min (2 ^ 64 - 1) ((sum aggregate).toNat +
        ((samples.filter takes).map fun stats => (counter stats).toNat).sum) := by
  induction samples generalizing aggregate with
  | nil =>
    have hbound := (sum aggregate).toNat_lt
    simp only [List.foldl_nil, List.filter_nil, List.map_nil, List.sum_nil]
    omega
  | cons stats rest ih =>
    rw [List.foldl_cons, ih, habsorb]
    cases h : takes stats with
    | false => simp [h]
    | true =>
      rw [if_pos rfl, Count.toNat_plus, List.filter_cons_of_pos h, List.map_cons, List.sum_cons]
      omega

/-- The same for the counters of the enabled samples, where the field starts from zero. -/
theorem toNat_ofSamples (sum : Aggregate → Count) (counter : LiveStats → Count)
    (hzero : sum {} = 0) (habsorb : ∀ aggregate stats, sum (absorb aggregate stats) =
      if stats.enabled then (sum aggregate).plus (counter stats) else sum aggregate)
    (samples : List LiveStats) :
    (sum (ofSamples samples)).toNat = min (2 ^ 64 - 1) (LiveStats.sumOf counter samples) := by
  rw [ofSamples, toNat_foldl_absorb sum (·.enabled) counter habsorb, hzero, UInt64.toNat_zero,
    Nat.zero_add]
  rfl

section Absorb

variable (aggregate : Aggregate) (stats : LiveStats)

/-- Each counter of an aggregate grows by that of an enabled network. -/
theorem queue_absorb : (aggregate.absorb stats).queue =
    if stats.enabled then aggregate.queue.plus stats.queue else aggregate.queue := by
  unfold absorb
  split <;> rfl

theorem standby_absorb : (aggregate.absorb stats).standby =
    if stats.enabled then aggregate.standby.plus stats.standby else aggregate.standby := by
  unfold absorb
  split <;> rfl

theorem inFlight_absorb : (aggregate.absorb stats).inFlight =
    if stats.enabled then aggregate.inFlight.plus stats.inFlight else aggregate.inFlight := by
  unfold absorb
  split <;> rfl

end Absorb

variable (samples : List LiveStats)

/-- Each counter of an aggregate is the sum over the samples, cut off at the largest count. -/
theorem toNat_queue :
    (ofSamples samples).queue.toNat = min (2 ^ 64 - 1) (LiveStats.sumOf LiveStats.queue samples) :=
  toNat_ofSamples Aggregate.queue LiveStats.queue rfl queue_absorb samples

theorem toNat_standby :
    (ofSamples samples).standby.toNat =
      min (2 ^ 64 - 1) (LiveStats.sumOf LiveStats.standby samples) :=
  toNat_ofSamples Aggregate.standby LiveStats.standby rfl standby_absorb samples

theorem toNat_inFlight :
    (ofSamples samples).inFlight.toNat =
      min (2 ^ 64 - 1) (LiveStats.sumOf LiveStats.inFlight samples) :=
  toNat_ofSamples Aggregate.inFlight LiveStats.inFlight rfl inFlight_absorb samples

/-- The total of the aggregate is the sum of the totals of the enabled samples, cut at the
greatest count. -/
theorem toNat_total :
    (ofSamples samples).total.toNat = min (2 ^ 64 - 1) (LiveStats.sumOf LiveStats.total samples) := by
  rw [LiveStats.sumOf_total, total, Count.toNat_plus, Count.toNat_plus, toNat_queue,
    toNat_standby, toNat_inFlight]
  omega

/-- A sample adds the lockout of an enabled network. -/
theorem lockouts_foldl_absorb (aggregate : Aggregate) :
    (samples.foldl absorb aggregate).lockouts =
      (aggregate.lockouts || samples.any fun stats => stats.enabled && stats.lockups.any) := by
  induction samples generalizing aggregate with
  | nil => simp
  | cons stats rest ih =>
    rw [List.foldl_cons, ih, List.any_cons]
    cases h : stats.enabled <;> simp [absorb, h, Bool.or_assoc]

/-- Some class is stalled in the aggregate exactly if one is in some enabled sample. -/
theorem lockouts_ofSamples :
    (ofSamples samples).lockouts = samples.any fun stats => stats.enabled && stats.lockups.any := by
  rw [ofSamples, lockouts_foldl_absorb]
  rfl

/-- Two samples are taken in with the same result in either order. -/
theorem absorb_right_comm (aggregate : Aggregate) (first second : LiveStats) :
    (aggregate.absorb first).absorb second = (aggregate.absorb second).absorb first := by
  cases hfirst : first.enabled <;> cases hsecond : second.enabled <;>
    simp only [absorb, hfirst, hsecond, Bool.false_eq_true, if_true, if_false,
      Count.plus_right_comm _ first.queue, Count.plus_right_comm _ first.standby,
      Count.plus_right_comm _ first.inFlight, Bool.or_right_comm _ first.lockups.any]

/-- Samples are taken in with the same result in any order. -/
theorem foldl_absorb_eq_of_perm {samples samples' : List LiveStats} (h : samples.Perm samples')
    (aggregate : Aggregate) : samples.foldl absorb aggregate = samples'.foldl absorb aggregate :=
  h.foldl_eq' (fun first _ second _ aggregate => absorb_right_comm aggregate first second) aggregate

/-- The aggregate does not depend on the order of the samples. -/
theorem ofSamples_eq_of_perm {samples samples' : List LiveStats} (h : samples.Perm samples') :
    ofSamples samples = ofSamples samples' :=
  foldl_absorb_eq_of_perm h {}

end Aggregate

end PollAudit
