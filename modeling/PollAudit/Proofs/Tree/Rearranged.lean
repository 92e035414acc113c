import Mathlib.Algebra.Ring.Nat
import Mathlib.Data.List.Forall2
import PollAudit.Tree.Basic

namespace PollAudit

/-- The lists hold items that correspond one to one under `r`, in whatever order. -/
def Rearranges {α : Type} (r : α → α → Prop) (xs ys : List α) : Prop :=
  ∃ zs, xs.Perm zs ∧ List.Forall₂ r zs ys

namespace Rearranges

variable {α : Type} {r : α → α → Prop} {xs ys : List α}

theorem nil : Rearranges r [] [] :=
  ⟨[], .nil, .nil⟩

/-- Lists rearranged item by item are so for a weaker relation too. -/
theorem imp {r' : α → α → Prop} (hr : ∀ x y, r x y → r' x y) (h : Rearranges r xs ys) :
    Rearranges r' xs ys := by
  obtain ⟨zs, hperm, hall⟩ := h
  exact ⟨zs, hperm, hall.imp hr⟩

/-- A quantity that corresponding items have in common sums up to the same. -/
theorem sum_map {f : α → Nat} (hf : ∀ x y, r x y → f x = f y) (h : Rearranges r xs ys) :
    (xs.map f).sum = (ys.map f).sum := by
  obtain ⟨zs, hperm, hall⟩ := h
  have hmap : zs.map f = ys.map f := by
    clear hperm
    induction hall with
    | nil => rfl
    | cons hfirst _ ih => rw [List.map_cons, List.map_cons, hf _ _ hfirst, ih]
  rw [(hperm.map f).sum_nat, hmap]

end Rearranges

/-- The same device, with its points in another order. -/
structure Device.Alike (a b : Device) : Prop where
  enabled : a.enabled = b.enabled
  points : a.points.Perm b.points

/-- The same network, with its devices in another order and their points too. -/
structure Network.Alike (a b : Network) : Prop where
  id : a.id = b.id
  name : a.name = b.name
  plugin : a.plugin = b.plugin
  enabled : a.enabled = b.enabled
  devices : Rearranges Device.Alike a.devices b.devices

end PollAudit
