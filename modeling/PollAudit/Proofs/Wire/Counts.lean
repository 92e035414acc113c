import Mathlib.Data.List.Forall2
import PollAudit.Proofs.Polling.Sum
import PollAudit.Proofs.Tree.Points
import PollAudit.Wire.Stats
import PollAudit.Wire.Tree

namespace PollAudit.Wire

/-- The points of a device that count, as it was sent. A flag that is missing or null is not
true. -/
def Device.activePoints (device : Device) : Nat :=
  if device.enable = some true then device.points.countP (·.enable = some true) else 0

def Network.activePoints (network : Network) : Nat :=
  if network.enable = some true then (network.devices.map Device.activePoints).sum else 0

/-- Some network that was discovered has the uuid of this one, and the plugin serves it. -/
def Network.isFoundAmong (network : Network) (plugin : String) (discovered : List Network) : Bool :=
  discovered.any fun found => found.plugin == plugin && found.uuid == network.uuid

/-- The points of a tree that count. -/
def activePoints (plugin : String) (discovered tree : List Network) : Nat :=
  ((tree.filter (·.isFoundAmong plugin discovered)).map Network.activePoints).sum

section Tree

variable (plugin : String) (discovered tree : List Network)

private theorem Device.activePoints_config (device : Device) :
    device.config.activePoints = device.activePoints := by
  have hpoints : device.config.points.countP (·.enabled) =
      device.points.countP (·.enable = some true) := by
    rw [Device.config, List.countP_map]
    refine List.countP_congr fun point _ => ?_
    cases henable : point.enable <;> simp [Point.config, henable]
  rw [PollAudit.Device.activePoints, Device.activePoints, hpoints, Device.config]
  cases device.enable <;> simp

private theorem Network.activePoints_config (network : Network) :
    (if network.config.enabled then network.config.activePoints else 0) =
      network.activePoints := by
  have hdevices : network.config.devices.map PollAudit.Device.activePoints =
      network.devices.map Device.activePoints := by
    rw [Network.config, List.map_map]
    exact List.map_congr_left fun device _ => device.activePoints_config
  rw [PollAudit.Network.activePoints, Network.activePoints, hdevices, Network.config]
  cases network.enable <;> simp

private theorem contains_ofListings (network : Network) :
    (Watched.ofListings (discovered.map Network.listing) plugin).contains network.config.id =
      network.isFoundAmong plugin discovered := by
  have hid (found : Network) : ((⟨found.uuid⟩ : NetworkId) == ⟨network.uuid⟩) =
      (found.uuid == network.uuid) := by
    rw [Bool.eq_iff_iff, beq_iff_eq, beq_iff_eq, NetworkId.mk.injEq]
  simp [Watched.contains, Watched.ofListings, Network.isFoundAmong, Network.listing,
    Network.config, Function.comp_def, List.any_filter, hid]

/-- The expected count of a tree is the number of its points that count. -/
theorem toNat_expected :
    (Snapshot.expected ⟨tree.map Network.config⟩
      (.ofListings (discovered.map Network.listing) plugin)).toNat =
      min (2 ^ 64 - 1) (activePoints plugin discovered tree) := by
  rw [Snapshot.expected, Count.toNat_ofNat, Snapshot.length_activePoints]
  congr 1
  induction tree with
  | nil => rfl
  | cons network rest ih =>
    rw [Snapshot.counted, activePoints] at ih ⊢
    have hfirst := network.activePoints_config
    simp only [List.map_cons, List.filter_cons, contains_ofListings]
    cases hfound : network.isFoundAmong plugin discovered with
    | false => simpa using ih
    | true =>
      cases henabled : network.config.enabled <;>
        · rw [henabled] at hfirst
          simpa [← hfirst] using ih

end Tree

/-- The sum of a counter over the networks whose polling is enabled. What is negative adds
nothing. -/
def sumOf (counter : QueueStats → Int) (documents : List QueueStats) : Nat :=
  ((documents.filter (·.enable)).map fun stats => (counter stats).toNat).sum

private theorem sumOf_cons (counter : QueueStats → Int) (stats : QueueStats)
    (documents : List QueueStats) :
    sumOf counter (stats :: documents) =
      (if stats.enable then (counter stats).toNat else 0) + sumOf counter documents := by
  cases henable : stats.enable <;> simp [sumOf, henable]

/-- Some class of the network is stalled. -/
def QueueStats.isLocked (stats : QueueStats) : Bool :=
  stats.asapLockup || stats.highLockup || stats.normalLockup || stats.lowLockup

/-- Samples are statistics as they were sent, each under the name that it was asked for by. -/
def Sampled (documents : List QueueStats) (samples : List LiveStats) : Prop :=
  List.Forall₂ (fun stats sample => ∃ network, sample = { stats.live with network }) documents
    samples

section Stats

variable {documents : List QueueStats} {samples : List LiveStats} (h : Sampled documents samples)

include h

/-- Whether a counter is cut before it is summed up makes no difference to the sum that is cut. -/
theorem sumOf_of_sampled {counter : LiveStats → Count} {raw : QueueStats → Int}
    (hcounter : ∀ (stats : QueueStats) network,
      counter { stats.live with network } = .ofInt (raw stats)) :
    min (2 ^ 64 - 1) (LiveStats.sumOf counter samples) =
      min (2 ^ 64 - 1) (sumOf raw documents) := by
  induction h with
  | nil => rfl
  | @cons stats sample documents samples hsample _ ih =>
    obtain ⟨network, rfl⟩ := hsample
    have henabled : ({ stats.live with network } : LiveStats).enabled = stats.enable := rfl
    rw [sumOf_cons]
    -- A counter is cut twice, when it is read and when it is added, and the second time decides.
    cases henable : stats.enable with
    | false =>
      rw [LiveStats.sumOf_cons_of_disabled (henabled.trans henable), ih]
      simp
    | true =>
      rw [LiveStats.sumOf_cons_of_enabled (henabled.trans henable), hcounter, Count.toNat_ofInt,
        if_pos rfl]
      omega

/-- The counters of an aggregate are the sums of what the documents say, cut off at the largest
count. -/
theorem toNat_queue_of_sampled :
    (Aggregate.ofSamples samples).queue.toNat =
      min (2 ^ 64 - 1) (sumOf QueueStats.queue documents) := by
  rw [Aggregate.toNat_queue]
  exact sumOf_of_sampled h fun _ _ => rfl

theorem toNat_standby_of_sampled :
    (Aggregate.ofSamples samples).standby.toNat =
      min (2 ^ 64 - 1) (sumOf QueueStats.standby documents) := by
  rw [Aggregate.toNat_standby]
  exact sumOf_of_sampled h fun _ _ => rfl

theorem toNat_inFlight_of_sampled :
    (Aggregate.ofSamples samples).inFlight.toNat =
      min (2 ^ 64 - 1) (sumOf QueueStats.outForPolling documents) := by
  rw [Aggregate.toNat_inFlight]
  exact sumOf_of_sampled h fun _ _ => rfl

/-- The total of an aggregate is the sum of all counters of the documents, cut off at the largest
count. -/
theorem toNat_total_of_sampled :
    (Aggregate.ofSamples samples).total.toNat =
      min (2 ^ 64 - 1) (sumOf QueueStats.queue documents + sumOf QueueStats.standby documents +
        sumOf QueueStats.outForPolling documents) := by
  rw [Aggregate.total, Count.toNat_plus, Count.toNat_plus, toNat_queue_of_sampled h,
    toNat_standby_of_sampled h, toNat_inFlight_of_sampled h]
  omega

/-- There are lockouts exactly if an enabled network says so. -/
theorem lockouts_of_sampled :
    (Aggregate.ofSamples samples).lockouts =
      documents.any fun stats => stats.enable && stats.isLocked := by
  rw [Aggregate.lockouts_ofSamples]
  induction h with
  | nil => rfl
  | cons hsample _ ih =>
    obtain ⟨network, rfl⟩ := hsample
    rw [List.any_cons, List.any_cons, ih]
    rfl

end Stats

end PollAudit.Wire
