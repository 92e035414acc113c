import Mathlib.Algebra.Ring.Nat
import PollAudit.Tree.Expected

namespace PollAudit

/-- The enabled points of a device, none when the device itself is disabled. -/
def Device.activePoints (device : Device) : Nat :=
  if device.enabled then device.points.countP (·.enabled) else 0

/-- The points of a network that are to be polled while the network is enabled. -/
def Network.activePoints (network : Network) : Nat :=
  (network.devices.map Device.activePoints).sum

namespace Snapshot

/-- The points to be polled in the enabled networks with this identifier. -/
def pointsOf (snapshot : Snapshot) (id : NetworkId) : Nat :=
  ((snapshot.networks.filter fun network => network.enabled && network.id == id).map
    Network.activePoints).sum

/-- A network that is enabled and alone with its identifier has all the points of it. -/
theorem pointsOf_of_mem {snapshot : Snapshot} {network : Network}
    (hdistinct : (snapshot.networks.map (·.id)).Nodup) (hmem : network ∈ snapshot.networks)
    (henabled : network.enabled = true) : snapshot.pointsOf network.id = network.activePoints := by
  rcases snapshot with ⟨networks⟩
  induction networks with
  | nil => cases hmem
  | cons first rest ih =>
    rw [List.map_cons, List.nodup_cons] at hdistinct
    rcases List.mem_cons.mp hmem with rfl | hlater
    · have hrest : rest.filter (fun other => other.enabled && other.id == network.id) = [] := by
        rw [List.filter_eq_nil_iff]
        intro other hother hboth
        simp only [Bool.and_eq_true, beq_iff_eq] at hboth
        exact hdistinct.1 (hboth.2 ▸ List.mem_map_of_mem hother)
      simp [pointsOf, henabled, hrest]
    · have hne : first.id ≠ network.id := fun heq =>
        hdistinct.1 (heq ▸ List.mem_map_of_mem hlater)
      have hrest := ih hdistinct.2 hlater
      simpa [pointsOf, hne] using hrest

/-- Without an enabled network of this identifier there are no points. -/
theorem pointsOf_of_absent {snapshot : Snapshot} {id : NetworkId}
    (h : ∀ network ∈ snapshot.networks, network.id = id → network.enabled = false) :
    snapshot.pointsOf id = 0 := by
  have hnone : snapshot.networks.filter (fun network => network.enabled && network.id == id) =
      [] := by
    rw [List.filter_eq_nil_iff]
    intro network hmem hboth
    simp only [Bool.and_eq_true, beq_iff_eq] at hboth
    rw [h network hmem hboth.2] at hboth
    cases hboth.1
  rw [pointsOf, hnone]
  rfl

/-- The points of the counted networks are those of the first watched one and those of the
others, where no other one has its identifier. -/
theorem sum_counted_cons (snapshot : Snapshot) {watch : Watch} {rest : List Watch}
    (h : ∀ other ∈ rest, other.id ≠ watch.id) :
    ((snapshot.counted ⟨watch :: rest⟩).map Network.activePoints).sum =
      snapshot.pointsOf watch.id +
        ((snapshot.counted ⟨rest⟩).map Network.activePoints).sum := by
  rcases snapshot with ⟨networks⟩
  induction networks with
  | nil => rfl
  | cons network networks ih =>
    have hrest : watch.id = network.id → Watched.contains ⟨rest⟩ network.id = false := by
      intro heq
      rw [Bool.eq_false_iff, ne_eq, Watched.contains_iff]
      rintro ⟨other, hother, hid⟩
      exact h other hother (hid.trans heq.symm)
    have hfirst : Watched.contains ⟨watch :: rest⟩ network.id =
        (watch.id == network.id || Watched.contains ⟨rest⟩ network.id) := rfl
    simp only [counted, pointsOf, List.filter_cons, hfirst] at ih ⊢
    -- A network with the first identifier counts for the first entry alone.
    by_cases heq : watch.id = network.id
    · cases henabled : network.enabled <;> simp [hrest heq, heq, ih, Nat.add_assoc]
    · have hwatch : (watch.id == network.id) = false := beq_false_of_ne heq
      have hnetwork : (network.id == watch.id) = false := beq_false_of_ne (Ne.symm heq)
      simp only [hwatch, hnetwork, Bool.false_or, Bool.and_false, Bool.false_eq_true, if_false]
      split
      · simp only [List.map_cons, List.sum_cons, ih, Nat.add_left_comm]
      · exact ih

/-- Watched networks with distinct identifiers divide the counted points among them, in whatever
order the tree lists them. -/
theorem sum_pointsOf (snapshot : Snapshot) {watched : Watched}
    (hdistinct : (watched.entries.map (·.id)).Nodup) :
    (watched.entries.map fun watch => snapshot.pointsOf watch.id).sum =
      ((snapshot.counted watched).map Network.activePoints).sum := by
  rcases watched with ⟨entries⟩
  induction entries with
  | nil =>
    have hnone : snapshot.counted ⟨[]⟩ = [] := List.filter_eq_nil_iff.mpr (by simp [Watched.contains])
    rw [hnone]
    rfl
  | cons watch rest ih =>
    rw [List.map_cons, List.nodup_cons] at hdistinct
    rw [sum_counted_cons, List.map_cons, List.sum_cons, ih hdistinct.2]
    intro other hother heq
    exact hdistinct.1 (heq ▸ List.mem_map_of_mem hother)

private theorem length_points_of_devices (devices : List Device) :
    (((devices.filter (·.enabled)).flatMap (·.points)).filter (·.enabled)).length =
      (devices.map Device.activePoints).sum := by
  induction devices with
  | nil => rfl
  | cons device rest ih =>
    cases henabled : device.enabled with
    | false => simp [Device.activePoints, henabled, ih]
    | true => simp [Device.activePoints, henabled, ih, List.countP_eq_length_filter]

/-- The points under active polling, network by network. -/
theorem length_activePoints (snapshot : Snapshot) (watched : Watched) :
    (snapshot.activePoints watched).length =
      ((snapshot.counted watched).map Network.activePoints).sum := by
  unfold activePoints
  induction snapshot.counted watched with
  | nil => rfl
  | cons network rest ih =>
    simp only [List.flatMap_cons, List.filter_append, List.flatMap_append, List.length_append,
      List.map_cons, List.sum_cons, ih, length_points_of_devices]
    rfl

end Snapshot

end PollAudit
