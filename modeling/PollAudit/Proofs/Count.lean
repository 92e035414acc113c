import Mathlib.Algebra.Ring.Nat
import PollAudit.Count

namespace PollAudit

namespace Count

/-- Saturating addition is addition of the values, cut at the greatest one. -/
theorem toNat_plus (a b : Count) : (plus a b).toNat = min (2 ^ 64 - 1) (a.toNat + b.toNat) := by
  unfold plus top UInt64.size
  split
  · rw [UInt64.toNat_add]
    omega
  · simp only [UInt64.reduceToNat]
    omega

/-- The order in which counts are added does not matter, even where the sum is cut off. -/
theorem plus_right_comm (a b c : Count) : plus (plus a b) c = plus (plus a c) b := by
  apply UInt64.toNat_inj.mp
  simp only [toNat_plus]
  omega

/-- A number too large for a count becomes the largest one. -/
theorem toNat_ofNat (n : Nat) : (ofNat n).toNat = min (2 ^ 64 - 1) n := by
  unfold ofNat top UInt64.size
  split
  · rw [UInt64.toNat_ofNat_of_lt' (by assumption)]
    omega
  · simp only [UInt64.reduceToNat]
    omega

/-- A negative number becomes zero, and one too large the largest count. -/
theorem toNat_ofInt (i : Int) : (ofInt i).toNat = min (2 ^ 64 - 1) i.toNat :=
  toNat_ofNat i.toNat

end Count

/-- A streak grows by one until it is as long as it can get. -/
theorem Streak.toNat_next (s : Streak) : (next s).toNat = min (2 ^ 32 - 1) (s.toNat + 1) := by
  have hs := s.toNat_lt
  unfold next UInt32.size
  split
  · rw [UInt32.toNat_add]
    simp only [UInt32.reduceToNat]
    omega
  · omega

end PollAudit
