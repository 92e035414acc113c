import PollAudit.Proofs.Machine.Cycle
import PollAudit.Proofs.Tree.Points

namespace PollAudit

/-- A tree without the networks that are not watched, and without names and plugins. -/
def Watched.essence (watched : Watched) (networks : List Network) : List Network :=
  (networks.filter fun network => watched.contains network.id).map fun network =>
    { network with name := "", plugin := "" }

/-- Counters without those that are never read: all but the fact of being disabled in a disabled
network, and the name, the queue lengths by priority, the polls and the busy time in every one. -/
def LiveStats.essence (stats : LiveStats) : LiveStats :=
  if stats.enabled then
    { enabled := true
      queue := stats.queue
      standby := stats.standby
      inFlight := stats.inFlight
      lockups := stats.lockups }
  else {}

namespace Snapshot

/-- The watched networks count by their identifiers alone. -/
theorem expected_congr {watched other : Watched} (h : ∀ id, watched.contains id = other.contains id)
    (snapshot : Snapshot) : snapshot.expected watched = snapshot.expected other := by
  have hcounted : snapshot.counted watched = snapshot.counted other := by
    simp only [counted, h]
  rw [expected, expected, activePoints, activePoints, hcounted]

/-- What a tree is expected to count is in its essence. -/
theorem expected_essence (watched : Watched) (networks : List Network) :
    Snapshot.expected ⟨watched.essence networks⟩ watched =
      Snapshot.expected ⟨networks⟩ watched := by
  have hpoints : (Snapshot.counted ⟨watched.essence networks⟩ watched).map Network.activePoints =
      (Snapshot.counted ⟨networks⟩ watched).map Network.activePoints := by
    simp only [counted, Watched.essence, List.filter_map, List.filter_filter, List.map_map,
      Function.comp_def, Bool.and_assoc, Bool.and_self]
    rfl
  rw [expected, expected, length_activePoints, length_activePoints, hpoints]

end Snapshot

namespace Reading

private theorem sumOf_essence (counter : LiveStats → Count)
    (h : ∀ stats : LiveStats, stats.enabled = true → counter stats.essence = counter stats)
    (samples : List LiveStats) :
    LiveStats.sumOf counter (samples.map LiveStats.essence) = LiveStats.sumOf counter samples := by
  induction samples with
  | nil => rfl
  | cons stats rest ih =>
    cases henabled : stats.enabled with
    | false =>
      have hessence : stats.essence.enabled = false := by simp [LiveStats.essence, henabled]
      rw [List.map_cons, LiveStats.sumOf_cons_of_disabled hessence,
        LiveStats.sumOf_cons_of_disabled henabled, ih]
    | true =>
      have hessence : stats.essence.enabled = true := by simp [LiveStats.essence, henabled]
      rw [List.map_cons, LiveStats.sumOf_cons_of_enabled hessence,
        LiveStats.sumOf_cons_of_enabled henabled, h stats henabled, ih]

/-- What a sampling reads is in the essence of its counters. -/
theorem ofSamples_essence (samples : List LiveStats) :
    ofSamples (samples.map LiveStats.essence) = ofSamples samples := by
  have hqueue := sumOf_essence LiveStats.queue
    (fun stats h => by simp [LiveStats.essence, h]) samples
  have hstandby := sumOf_essence LiveStats.standby
    (fun stats h => by simp [LiveStats.essence, h]) samples
  have hinFlight := sumOf_essence LiveStats.inFlight
    (fun stats h => by simp [LiveStats.essence, h]) samples
  have hlockouts : ((samples.map LiveStats.essence).any fun stats =>
      stats.enabled && stats.lockups.any) =
      samples.any fun stats => stats.enabled && stats.lockups.any := by
    rw [List.any_map]
    congr 1
    funext stats
    cases h : stats.enabled <;> simp [LiveStats.essence, h]
  rw [ofSamples, hqueue, hstandby, hinFlight, hlockouts, ofSamples]

end Reading

/-- What the machine is told of a tree is in the essence of the tree. -/
theorem Reply.count_eq_of_essence {watched other : Watched}
    (hwatched : ∀ id, watched.contains id = other.contains id) {a b : Reply (List Network)}
    (h : a.result.map watched.essence = b.result.map other.essence) :
    a.count watched = b.count other := by
  have hcount (watched : Watched) (reply : Reply (List Network)) : reply.count watched =
      (reply.result.map watched.essence).map fun networks =>
        Snapshot.expected ⟨networks⟩ watched := by
    rw [count]
    cases reply.result with
    | error failure => rfl
    | ok networks => exact congrArg Except.ok (Snapshot.expected_essence watched networks).symm
  have hexpected : (fun networks => Snapshot.expected ⟨networks⟩ watched) =
      fun networks => Snapshot.expected ⟨networks⟩ other :=
    funext fun networks => Snapshot.expected_congr hwatched ⟨networks⟩
  rw [hcount watched, hcount other, h, hexpected]

/-- What the machine is told of a sampling is in the essence of its counters. -/
theorem Reply.reading_eq_of_essence {a b : Reply (List LiveStats)}
    (h : a.result.map (List.map LiveStats.essence) = b.result.map (List.map LiveStats.essence)) :
    a.reading = b.reading := by
  have hreading (reply : Reply (List LiveStats)) : reply.reading =
      (reply.result.map (List.map LiveStats.essence)).map Reading.ofSamples := by
    rw [reading]
    cases reply.result with
    | error failure => rfl
    | ok samples => exact congrArg Except.ok (Reading.ofSamples_essence samples).symm
  rw [hreading a, hreading b, h]

end PollAudit
