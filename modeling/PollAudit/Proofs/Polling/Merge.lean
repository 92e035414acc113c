import PollAudit.Proofs.Polling.Sum

namespace PollAudit

namespace Count

private theorem plus_assoc (a b c : Count) : plus (plus a b) c = plus a (plus b c) := by
  apply UInt64.toNat_inj.mp
  simp only [toNat_plus]
  omega

private theorem plus_zero (a : Count) : plus a 0 = a := by
  have hbound := a.toNat_lt
  apply UInt64.toNat_inj.mp
  rw [toNat_plus, UInt64.toNat_zero]
  omega

/-- Counts added up one after the other. -/
def sum (counts : List Count) : Count :=
  counts.foldl plus 0

private theorem toNat_foldl_plus (counts : List Count) (start : Count) :
    (counts.foldl plus start).toNat =
      min (2 ^ 64 - 1) (start.toNat + (counts.map UInt64.toNat).sum) := by
  induction counts generalizing start with
  | nil =>
    have hbound := start.toNat_lt
    simp only [List.foldl_nil, List.map_nil, List.sum_nil]
    omega
  | cons count rest ih =>
    rw [List.foldl_cons, ih, toNat_plus, List.map_cons, List.sum_cons]
    omega

/-- It does not matter where on the way the greatest count was reached. -/
theorem toNat_sum (counts : List Count) :
    (sum counts).toNat = min (2 ^ 64 - 1) (counts.map UInt64.toNat).sum := by
  rw [sum, toNat_foldl_plus, UInt64.toNat_zero, Nat.zero_add]

end Count

namespace Aggregate

/-- Two aggregates as one, component by component. -/
def merge (a b : Aggregate) : Aggregate where
  queue := a.queue.plus b.queue
  standby := a.standby.plus b.standby
  inFlight := a.inFlight.plus b.inFlight
  lockouts := a.lockouts || b.lockouts
  sampled := a.sampled.plus b.sampled
  skipped := a.skipped.plus b.skipped

private theorem merge_empty (a : Aggregate) : a.merge {} = a := by
  simp only [merge, Count.plus_zero, Bool.or_false]

/-- A sample that the second part takes in is one that the whole takes in. -/
theorem absorb_merge (a b : Aggregate) (stats : LiveStats) :
    (a.merge b).absorb stats = a.merge (b.absorb stats) := by
  cases h : stats.enabled <;>
    simp only [absorb, merge, h, Bool.false_eq_true, if_true, if_false, Count.plus_assoc,
      Bool.or_assoc]

private theorem foldl_absorb_merge (samples : List LiveStats) (a b : Aggregate) :
    samples.foldl absorb (a.merge b) = a.merge (samples.foldl absorb b) := by
  induction samples generalizing b with
  | nil => rfl
  | cons stats rest ih => rw [List.foldl_cons, absorb_merge, ih, List.foldl_cons]

/-- The aggregate of some samples and further ones is made from the two aggregates. -/
theorem ofSamples_append (front back : List LiveStats) :
    ofSamples (front ++ back) = (ofSamples front).merge (ofSamples back) := by
  calc ofSamples (front ++ back) = back.foldl absorb (ofSamples front) := List.foldl_append
    _ = back.foldl absorb ((ofSamples front).merge {}) := by rw [merge_empty]
    _ = (ofSamples front).merge (ofSamples back) := foldl_absorb_merge back _ _

private theorem sampled_absorb (aggregate : Aggregate) (stats : LiveStats) :
    (aggregate.absorb stats).sampled =
      if stats.enabled then aggregate.sampled.plus 1 else aggregate.sampled := by
  unfold absorb
  split <;> rfl

private theorem skipped_absorb (aggregate : Aggregate) (stats : LiveStats) :
    (aggregate.absorb stats).skipped =
      if !stats.enabled then aggregate.skipped.plus 1 else aggregate.skipped := by
  cases h : stats.enabled <;> simp [absorb, h]

/-- A field of an aggregate that counts the samples of some kind. -/
theorem toNat_foldl_absorb_one (size : Aggregate → Count) (takes : LiveStats → Bool)
    (habsorb : ∀ aggregate stats, size (absorb aggregate stats) =
      if takes stats then (size aggregate).plus 1 else size aggregate)
    (samples : List LiveStats) (aggregate : Aggregate) :
    (size (samples.foldl absorb aggregate)).toNat =
      min (2 ^ 64 - 1) ((size aggregate).toNat + samples.countP takes) := by
  rw [toNat_foldl_absorb size takes (fun _ => 1) habsorb, List.map_const', List.sum_replicate_nat,
    UInt64.toNat_one, Nat.mul_one, List.countP_eq_length_filter]

/-- The total of all samples is the sum of the totals of the enabled ones. -/
theorem total_ofSamples (samples : List LiveStats) :
    (ofSamples samples).total = Count.sum ((samples.filter (·.enabled)).map LiveStats.total) := by
  apply UInt64.toNat_inj.mp
  rw [toNat_total, Count.toNat_sum, List.map_map]
  rfl

/-- What becomes of any aggregate that takes in any samples. Each of its five numbers is the exact
sum, cut at the greatest count, and a class is stalled if one was before or one is in an enabled
sample. The order of the samples does not matter. From the empty aggregate on, two lots of samples
give what the aggregates of the lots give when they are merged, and the total is the sum of the
totals of the enabled samples, wherever sums are cut on the way. -/
theorem foldl_absorb_eq (aggregate : Aggregate) (samples : List LiveStats) :
    let out := samples.foldl absorb aggregate
    (out.queue.toNat =
        min (2 ^ 64 - 1) (aggregate.queue.toNat + LiveStats.sumOf LiveStats.queue samples) ∧
      out.standby.toNat =
        min (2 ^ 64 - 1) (aggregate.standby.toNat + LiveStats.sumOf LiveStats.standby samples) ∧
      out.inFlight.toNat =
        min (2 ^ 64 - 1) (aggregate.inFlight.toNat + LiveStats.sumOf LiveStats.inFlight samples) ∧
      out.sampled.toNat =
        min (2 ^ 64 - 1) (aggregate.sampled.toNat + samples.countP (·.enabled)) ∧
      out.skipped.toNat =
        min (2 ^ 64 - 1) (aggregate.skipped.toNat + samples.countP (!·.enabled)) ∧
      (out.lockouts = true ↔ aggregate.lockouts = true ∨
        ∃ stats ∈ samples, stats.enabled = true ∧ stats.lockups.any = true)) ∧
    (∀ other, samples.Perm other → other.foldl absorb aggregate = out) ∧
    (∀ others, ofSamples (samples ++ others) = (ofSamples samples).merge (ofSamples others)) ∧
    (ofSamples samples).total =
      Count.sum ((samples.filter (·.enabled)).map LiveStats.total) := by
  intro out
  refine ⟨⟨?_, ?_, ?_, ?_, ?_, ?_⟩, ?_, ofSamples_append samples, total_ofSamples samples⟩
  · exact toNat_foldl_absorb Aggregate.queue _ LiveStats.queue queue_absorb samples aggregate
  · exact toNat_foldl_absorb Aggregate.standby _ LiveStats.standby standby_absorb samples aggregate
  · exact toNat_foldl_absorb Aggregate.inFlight _ LiveStats.inFlight inFlight_absorb samples
      aggregate
  · exact toNat_foldl_absorb_one Aggregate.sampled _ sampled_absorb samples aggregate
  · exact toNat_foldl_absorb_one Aggregate.skipped _ skipped_absorb samples aggregate
  · have hlockouts : out.lockouts = _ := lockouts_foldl_absorb samples aggregate
    simp only [hlockouts, Bool.or_eq_true, List.any_eq_true, Bool.and_eq_true]
  · exact fun other hperm => (foldl_absorb_eq_of_perm hperm aggregate).symm

/-- Three samples, of which the first two fill the queue and one is disabled. -/
def crowded : List LiveStats :=
  [{ enabled := true, queue := Count.top, standby := 1 },
   { enabled := false, inFlight := 5, lockups := { low := true } },
   { enabled := true, queue := 7, lockups := { high := true } }]

/-- Taken in backwards, behind what was there before, they fill the queue and nothing else. -/
theorem foldl_absorb_crowded :
    crowded.Perm crowded.reverse ∧
      crowded.reverse.foldl absorb { queue := 3, skipped := 1 } =
        ⟨Count.top, 1, 0, true, 2, 2⟩ := by
  have hperm : crowded.Perm crowded.reverse := (List.reverse_perm crowded).symm
  obtain ⟨_, hother, _⟩ := foldl_absorb_eq { queue := 3, skipped := 1 } crowded
  exact ⟨hperm, (hother _ hperm).trans (by decide)⟩

end Aggregate

end PollAudit
