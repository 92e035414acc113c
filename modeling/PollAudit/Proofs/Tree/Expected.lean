import Mathlib.Algebra.Order.BigOperators.Group.List
import Mathlib.Algebra.Order.Group.Nat
import PollAudit.Proofs.Count
import PollAudit.Proofs.Tree.Points
import PollAudit.Proofs.Tree.Rearranged

namespace PollAudit

/-- The identifiers of the watched networks, in the order of the entries and as often as these have
them. -/
def Watched.ids (watched : Watched) : List NetworkId := watched.entries.map (·.id)

private theorem Watched.contains_iff_mem_ids {watched : Watched} {id : NetworkId} :
    watched.contains id = true ↔ id ∈ watched.ids := by
  rw [contains_iff, ids, List.mem_map]

/-- All points of a network, whether they are to be polled or not. -/
def Network.size (network : Network) : Nat := (network.devices.map (·.points.length)).sum

/-- All points of a tree. -/
def Snapshot.size (snapshot : Snapshot) : Nat := (snapshot.networks.map Network.size).sum

/-- What a network adds to the expected count. -/
def Network.share (watched : Watched) (network : Network) : Nat :=
  if network.enabled ∧ network.id ∈ watched.ids then network.activePoints else 0

private theorem Device.activePoints_le (device : Device) :
    device.activePoints ≤ device.points.length := by
  rw [activePoints]
  split
  · exact List.countP_le_length
  · exact Nat.zero_le _

private theorem Network.share_le_size (watched : Watched) (network : Network) :
    network.share watched ≤ network.size := by
  rw [share]
  split
  · exact List.sum_le_sum fun device _ => device.activePoints_le
  · exact Nat.zero_le _

/-- Two devices that are enabled both or neither, with the same points in some order if they are. -/
structure Device.Matches (a b : Device) : Prop where
  enabled : a.enabled = b.enabled
  points : a.enabled = true → a.points.Perm b.points

private theorem Device.Matches.activePoints {a b : Device} (h : a.Matches b) :
    a.activePoints = b.activePoints := by
  rw [Device.activePoints, Device.activePoints, ← h.enabled]
  split
  · rename_i henabled
    exact (h.points henabled).countP_eq _
  · rfl

/-- The same network by its identifier, enabled in both or in neither. Only if it is enabled and
watched do its devices match, in some order. Names and plugins are free. -/
structure Network.Matches (watched : Watched) (a b : Network) : Prop where
  id : a.id = b.id
  enabled : a.enabled = b.enabled
  devices : a.enabled = true → a.id ∈ watched.ids → Rearranges Device.Matches a.devices b.devices

private theorem Network.Matches.share {watched : Watched} {a b : Network}
    (h : a.Matches watched b) :
    a.share watched = b.share watched := by
  rw [Network.share, Network.share, ← h.enabled, ← h.id]
  split
  · rename_i hcounts
    exact (h.devices hcounts.1 hcounts.2).sum_map fun _ _ hdevice => hdevice.activePoints
  · rfl

private theorem Device.Alike.matches {a b : Device} (h : a.Alike b) : a.Matches b :=
  ⟨h.enabled, fun _ => h.points⟩

private theorem Network.Alike.matches {a b : Network} (h : a.Alike b) (watched : Watched) :
    a.Matches watched b :=
  ⟨h.id, h.enabled, fun _ _ => h.devices.imp fun _ _ hdevice => hdevice.matches⟩

/-- The same device, in which any of the flags that are off may have been turned on. -/
structure Device.Below (a b : Device) : Prop where
  enabled : a.enabled ≤ b.enabled
  points : List.Forall₂ (fun p q : Point => p.enabled ≤ q.enabled) a.points b.points

/-- The same network, in which any of the flags that are off may have been turned on. -/
structure Network.Below (a b : Network) : Prop where
  id : a.id = b.id
  enabled : a.enabled ≤ b.enabled
  devices : List.Forall₂ Device.Below a.devices b.devices

private theorem Device.Below.refl (device : Device) : device.Below device :=
  ⟨le_refl _, List.forall₂_same.mpr fun _ _ => le_refl _⟩

section Below

private theorem sum_map_le_of_forall₂ {α : Type} {f : α → Nat} {xs ys : List α}
    (h : List.Forall₂ (fun x y => f x ≤ f y) xs ys) : (xs.map f).sum ≤ (ys.map f).sum :=
  List.Forall₂.sum_le_sum (List.forall₂_map_left_iff.mpr (List.forall₂_map_right_iff.mpr h))

private theorem countP_enabled_le {xs ys : List Point}
    (h : List.Forall₂ (fun p q : Point => p.enabled ≤ q.enabled) xs ys) :
    xs.countP (·.enabled) ≤ ys.countP (·.enabled) := by
  induction h with
  | nil => exact Nat.le_refl _
  | @cons p q _ _ hfirst _ ih =>
    have hfirst : p.enabled = true → q.enabled = true := hfirst
    rw [List.countP_cons, List.countP_cons]
    split
    · rw [if_pos (hfirst ‹_›)]
      omega
    · omega

private theorem Device.Below.activePoints {a b : Device} (h : a.Below b) :
    a.activePoints ≤ b.activePoints := by
  have henabled : a.enabled = true → b.enabled = true := h.enabled
  rw [Device.activePoints, Device.activePoints]
  split
  · rw [if_pos (henabled ‹_›)]
    exact countP_enabled_le h.points
  · exact Nat.zero_le _

private theorem Network.Below.share {a b : Network} (h : a.Below b) (watched : Watched) :
    a.share watched ≤ b.share watched := by
  have henabled : a.enabled = true → b.enabled = true := h.enabled
  rw [Network.share, Network.share, ← h.id]
  split
  · rename_i hcounts
    rw [if_pos ⟨henabled hcounts.1, hcounts.2⟩]
    exact sum_map_le_of_forall₂ (h.devices.imp fun _ _ hdevice => hdevice.activePoints)
  · exact Nat.zero_le _

end Below

namespace Snapshot

variable {xs ys : List Network} {a b : Watched}

private theorem sum_share (snapshot : Snapshot) (watched : Watched) :
    (snapshot.networks.map (Network.share watched)).sum =
      ((snapshot.networks.filter fun network =>
        network.enabled ∧ network.id ∈ watched.ids).map Network.activePoints).sum := by
  unfold Network.share
  rw [List.sum_map_ite, List.map_const', List.sum_replicate_nat, Nat.mul_zero, Nat.add_zero]

private theorem counted_eq (snapshot : Snapshot) (watched : Watched) :
    snapshot.counted watched = snapshot.networks.filter fun network =>
      network.enabled ∧ network.id ∈ watched.ids := by
  refine List.filter_congr fun network _ => ?_
  rw [Bool.eq_iff_iff, Bool.and_eq_true, Watched.contains_iff_mem_ids, decide_eq_true_eq]

/-- The expected count is the sum of what the networks add to it, cut at the greatest count. -/
theorem toNat_expected (snapshot : Snapshot) (watched : Watched) :
    (snapshot.expected watched).toNat =
      min (2 ^ 64 - 1) (snapshot.networks.map (Network.share watched)).sum := by
  rw [expected, Count.toNat_ofNat, length_activePoints, sum_share, counted_eq]

/-- A tree of which all points can be counted is counted exactly. -/
theorem toNat_expected_of_size {snapshot : Snapshot} (h : snapshot.size < 2 ^ 64)
    (watched : Watched) :
    (snapshot.expected watched).toNat = (snapshot.networks.map (Network.share watched)).sum := by
  have hle : (snapshot.networks.map (Network.share watched)).sum ≤ snapshot.size :=
    List.sum_le_sum fun network _ => network.share_le_size watched
  rw [toNat_expected]
  omega

private theorem size_append (xs ys : List Network) : size ⟨xs ++ ys⟩ = size ⟨xs⟩ + size ⟨ys⟩ := by
  rw [size, List.map_append, List.sum_append]
  rfl

/-- Trees that match have the same expected count under lists of the same identifiers. -/
theorem expected_eq_of_matches (h : Rearranges (Network.Matches a) xs ys)
    (hids : ∀ id, id ∈ a.ids ↔ id ∈ b.ids) : expected ⟨xs⟩ a = expected ⟨ys⟩ b := by
  have hshare : Network.share a = Network.share b := by
    funext network
    simp only [Network.share, hids]
  apply UInt64.toNat_inj.mp
  rw [toNat_expected, toNat_expected, ← hshare, h.sum_map fun _ _ hnetwork => hnetwork.share]

/-- The expected count depends neither on the order of networks, devices and points in the tree nor
on that of the watched networks. -/
theorem expected_eq_of_rearranges (h : Rearranges Network.Alike xs ys)
    (hwatched : a.entries.Perm b.entries) : expected ⟨xs⟩ a = expected ⟨ys⟩ b :=
  expected_eq_of_matches (h.imp fun _ _ hnetwork => hnetwork.matches a) fun _ =>
    (hwatched.map _).mem_iff

/-- Trees that are put together are counted together, in whatever way their points are spread. -/
theorem toNat_expected_append (h : size ⟨xs ++ ys⟩ < 2 ^ 64) (watched : Watched) :
    (expected ⟨xs ++ ys⟩ watched).toNat =
      (expected ⟨xs⟩ watched).toNat + (expected ⟨ys⟩ watched).toNat := by
  have hsize := size_append xs ys
  have hfront : size ⟨xs⟩ < 2 ^ 64 := by omega
  have hback : size ⟨ys⟩ < 2 ^ 64 := by omega
  rw [toNat_expected_of_size h, toNat_expected_of_size hfront, toNat_expected_of_size hback,
    List.map_append, List.sum_append]

private theorem expected_le_of_below (h : List.Forall₂ Network.Below xs ys) (watched : Watched) :
    expected ⟨xs⟩ watched ≤ expected ⟨ys⟩ watched := by
  have hsum : (xs.map (Network.share watched)).sum ≤ (ys.map (Network.share watched)).sum :=
    sum_map_le_of_forall₂ (h.imp fun _ _ hnetwork => hnetwork.share watched)
  rw [UInt64.le_iff_toNat_le, toNat_expected, toNat_expected]
  exact min_le_min_left _ hsum

/-- What a tree is expected to count. As long as all of its points can be counted, it is the sum of
the enabled points of the enabled devices over the networks that are enabled and watched, and the
counts of two trees add up to that of both together. Nothing else decides it: it is the same for
networks, devices and points in any order, for other names and plugins, for anything else below a
network that is disabled or not watched or below a disabled device, and for watched networks in any
order and any number of times. It never falls where flags are turned on. -/
theorem toNat_expected_eq_sum :
    (∀ (snapshot : Snapshot) (watched : Watched), snapshot.size < 2 ^ 64 →
      (snapshot.expected watched).toNat =
        ((snapshot.networks.filter fun network =>
          network.enabled ∧ network.id ∈ watched.ids).map Network.activePoints).sum) ∧
    (∀ (xs ys : List Network) (a b : Watched), Rearranges (Network.Matches a) xs ys →
      (∀ id, id ∈ a.ids ↔ id ∈ b.ids) → expected ⟨xs⟩ a = expected ⟨ys⟩ b) ∧
    (∀ (xs ys : List Network) (watched : Watched), size ⟨xs ++ ys⟩ < 2 ^ 64 →
      (expected ⟨xs ++ ys⟩ watched).toNat =
        (expected ⟨xs⟩ watched).toNat + (expected ⟨ys⟩ watched).toNat) ∧
    ∀ (xs ys : List Network) (watched : Watched), List.Forall₂ Network.Below xs ys →
      expected ⟨xs⟩ watched ≤ expected ⟨ys⟩ watched := by
  refine ⟨?_, ?_, ?_, ?_⟩
  · intro snapshot watched hsize
    rw [toNat_expected_of_size hsize, sum_share]
  · exact fun xs ys a b hmatches hids => expected_eq_of_matches hmatches hids
  · exact fun xs ys watched hsize => toNat_expected_append hsize watched
  · exact fun xs ys watched hbelow => expected_le_of_below hbelow watched

/-- A watched network with a disabled device, a disabled one and one that is not watched. -/
def plant : List Network :=
  [⟨⟨"a"⟩, "A", "modbus", true, [⟨true, [⟨true⟩, ⟨false⟩]⟩, ⟨false, [⟨true⟩]⟩]⟩,
   ⟨⟨"b"⟩, "B", "modbus", false, [⟨true, [⟨true⟩]⟩]⟩,
   ⟨⟨"x"⟩, "X", "bacnet", true, [⟨true, [⟨true⟩]⟩]⟩]

/-- The same in another order, with other names and with other things where they do not count. -/
def replanted : List Network :=
  [⟨⟨"x"⟩, "Y", "modbus", true, []⟩,
   ⟨⟨"a"⟩, "", "", true, [⟨false, []⟩, ⟨true, [⟨false⟩, ⟨true⟩]⟩]⟩,
   ⟨⟨"b"⟩, "B", "modbus", false, [⟨true, [⟨true⟩, ⟨true⟩]⟩]⟩]

/-- A network with the identifier of the first, whose only device is switched on or not. -/
def annex (on : Bool) : List Network := [⟨⟨"a"⟩, "A", "modbus", true, [⟨on, [⟨true⟩]⟩]⟩]

/-- The first two of these networks are watched. -/
def plantWatched : Watched := ⟨[⟨⟨"a"⟩, "A"⟩, ⟨⟨"b"⟩, "B"⟩]⟩

/-- Their identifiers once more, in another order and one of them twice. -/
def replantedWatched : Watched := ⟨[⟨⟨"b"⟩, "B"⟩, ⟨⟨"a"⟩, ""⟩, ⟨⟨"b"⟩, "B"⟩]⟩

private theorem matches_plant : Rearranges (Network.Matches plantWatched) plant replanted := by
  refine ⟨[plant[2], plant[0], plant[1]], by decide, ?_⟩
  refine .cons ⟨rfl, rfl, fun _ hid => absurd hid (by decide)⟩ ?_
  refine .cons ⟨rfl, rfl, fun _ _ => ?_⟩ (.cons ⟨rfl, rfl, nofun⟩ .nil)
  exact ⟨_, .swap .., .cons ⟨rfl, nofun⟩ (.cons ⟨rfl, fun _ => .swap ..⟩ .nil)⟩

private theorem below_annex : List.Forall₂ Network.Below (annex false) (annex true) := by
  refine .cons ⟨rfl, le_refl _, .cons ⟨Bool.false_le _, ?_⟩ .nil⟩ .nil
  exact (Device.Below.refl ⟨true, [⟨true⟩]⟩).points

/-- One point counts in the plant and in all that matches it, another one in the annex once its
device is turned on, and both are counted together. -/
theorem toNat_expected_plant :
    size ⟨plant ++ annex true⟩ < 2 ^ 64 ∧
      Rearranges (Network.Matches plantWatched) plant replanted ∧
      List.Forall₂ Network.Below (annex false) (annex true) ∧
      expected ⟨replanted⟩ replantedWatched = expected ⟨plant⟩ plantWatched ∧
      (expected ⟨plant ++ annex true⟩ plantWatched).toNat = 1 + 1 ∧
      expected ⟨annex false⟩ plantWatched ≤ expected ⟨annex true⟩ plantWatched := by
  have hids : ∀ id, id ∈ plantWatched.ids ↔ id ∈ replantedWatched.ids := by
    simp [plantWatched, replantedWatched, Watched.ids, or_comm]
  have hsize : size ⟨plant ++ annex true⟩ < 2 ^ 64 := by decide
  obtain ⟨hsum, hmatches, happend, hbelow⟩ := toNat_expected_eq_sum
  have hplant := hsum ⟨plant⟩ plantWatched (by decide)
  have hannex := hsum ⟨annex true⟩ plantWatched (by decide)
  refine ⟨hsize, matches_plant, below_annex, (hmatches _ _ _ _ matches_plant hids).symm, ?_,
    hbelow _ _ _ below_annex⟩
  rw [happend _ _ _ hsize, hplant, hannex]
  rfl

end Snapshot

end PollAudit
