import Mathlib.Data.Nat.Find
import PollAudit.Proofs.Count
import PollAudit.Proofs.Reconciler.Move

namespace PollAudit

namespace Move

/-- Position `i` in a sequence of operations is a reset point: the start, or the place right
behind an operation that ends every streak, read against the expected count of that moment. -/
def IsReset (moves : List Move) : Nat → Prop
  | 0 => True
  | i + 1 => ∃ move ∈ moves[i]?, move.resets (expectedAfter (moves.take i)) = true

instance decidableIsReset (moves : List Move) : DecidablePred (IsReset moves)
  | 0 => .isTrue trivial
  | i + 1 => inferInstanceAs (Decidable (∃ move ∈ moves[i]?, _))

/-- The last reset point of a sequence of operations. -/
def latestReset (moves : List Move) : Nat :=
  Nat.findGreatest (IsReset moves) moves.length

/-- The totals compared after the latest reset point. -/
def unmatched (moves : List Move) : Nat :=
  (moves.drop (latestReset moves)).countP isObserve

/-- Later operations do not change which of the earlier positions are reset points. -/
theorem isReset_append {moves : List Move} (later : List Move) {i : Nat} (hi : i ≤ moves.length) :
    IsReset (moves ++ later) i ↔ IsReset moves i := by
  cases i with
  | zero => exact Iff.rfl
  | succ i =>
    have hlt : i < moves.length := hi
    simp only [IsReset]
    rw [List.getElem?_append_left hlt, List.take_append_of_le_length (by omega)]

private theorem isReset_length_snoc (moves : List Move) (move : Move) :
    IsReset (moves ++ [move]) (moves.length + 1) ↔ move.resets (expectedAfter moves) = true := by
  simp [IsReset]

private theorem latestReset_le (moves : List Move) : latestReset moves ≤ moves.length :=
  Nat.findGreatest_le moves.length

private theorem findGreatest_congr {p q : Nat → Prop} [DecidablePred p] [DecidablePred q] :
    ∀ {n : Nat}, (∀ i ≤ n, p i ↔ q i) → Nat.findGreatest p n = Nat.findGreatest q n := by
  intro n hpq
  induction n with
  | zero => rfl
  | succ n ih =>
    rw [Nat.findGreatest_succ, Nat.findGreatest_succ, ih fun i hi => hpq i (by omega)]
    simp only [hpq (n + 1) (Nat.le_refl _)]

/-- The latest reset point moves behind an operation that resets, and stays where it is when any
other one is added. -/
theorem latestReset_snoc (moves : List Move) (move : Move) :
    latestReset (moves ++ [move]) =
      if move.resets (expectedAfter moves) then moves.length + 1 else latestReset moves := by
  unfold latestReset
  rw [List.length_append, List.length_singleton, Nat.findGreatest_succ]
  simp only [isReset_length_snoc]
  rw [findGreatest_congr fun i hi => isReset_append [move] hi]

private theorem unmatched_snoc_of_resets {moves : List Move} {move : Move}
    (h : move.resets (expectedAfter moves) = true) : unmatched (moves ++ [move]) = 0 := by
  unfold unmatched
  rw [latestReset_snoc, if_pos h, List.drop_eq_nil_of_le (by simp)]
  rfl

private theorem unmatched_snoc_of_not_resets {moves : List Move} {move : Move}
    (h : move.resets (expectedAfter moves) = false) :
    unmatched (moves ++ [move]) = unmatched moves + if move.isObserve then 1 else 0 := by
  unfold unmatched
  rw [latestReset_snoc, if_neg (by simp [h]), List.drop_append_of_le_length (latestReset_le moves),
    List.countP_append, List.countP_singleton]

@[simp] theorem unmatched_nil : unmatched [] = 0 := rfl

/-- The beginning of a cycle leaves the mismatches unmatched. -/
@[simp] theorem unmatched_snoc_begin (moves : List Move) :
    unmatched (moves ++ [begin]) = unmatched moves := by
  rw [unmatched_snoc_of_not_resets rfl]
  rfl

private theorem unmatched_snoc_apply (moves : List Move) (count : Count) :
    unmatched (moves ++ [apply count]) =
      if count = expectedAfter moves then unmatched moves else 0 := by
  split
  · rw [unmatched_snoc_of_not_resets (by simpa [resets])]
    rfl
  · rw [unmatched_snoc_of_resets (by simpa [resets])]

private theorem unmatched_snoc_observe (moves : List Move) (total : Count) :
    unmatched (moves ++ [observe total]) =
      if total = expectedAfter moves then 0 else unmatched moves + 1 := by
  split
  · rw [unmatched_snoc_of_resets (by simpa [resets])]
  · rw [unmatched_snoc_of_not_resets (by simpa [resets])]
    rfl

/-- While totals are unmatched, the latest one differs from the count expected now: the count has
not changed since it was compared. -/
theorem exists_lastTotal?_of_unmatched {moves : List Move} (h : unmatched moves ≠ 0) :
    ∃ total, lastTotal? moves = some total ∧ total ≠ expectedAfter moves := by
  induction moves using List.reverseRecOn with
  | nil => exact absurd rfl h
  | append_singleton moves move ih =>
    cases move with
    | begin =>
      rw [unmatched_snoc_begin] at h
      simpa using ih h
    | apply count =>
      rw [unmatched_snoc_apply] at h
      split at h
      · rename_i hcount
        simpa [hcount] using ih h
      · exact absurd rfl h
    | observe total =>
      rw [unmatched_snoc_observe] at h
      split at h
      · exact absurd rfl h
      · rename_i htotal
        exact ⟨total, by simp, by simpa using htotal⟩

end Move

namespace Reconciler

open Move

private theorem perform_snoc (r : Reconciler) (moves : List Move) (move : Move) :
    r.perform (moves ++ [move]) = (r.perform moves).move move := by
  rw [perform_append, perform_cons, perform_nil]

variable (policy : Policy)

/-- A fresh reconciler expects the count that was handed over last. -/
theorem expected_perform (moves : List Move) :
    (({ policy } : Reconciler).perform moves).ledger.expected = expectedAfter moves :=
  expected_perform_eq_getLast? _ moves

/-- The streak of a fresh reconciler counts the unmatched totals, up to the greatest run length. -/
theorem mismatches_perform (moves : List Move) :
    (({ policy } : Reconciler).perform moves).ledger.mismatches.toNat =
      min (unmatched moves) (2 ^ 32 - 1) := by
  induction moves using List.reverseRecOn with
  | nil => rfl
  | append_singleton moves move ih =>
    have hexpected := expected_perform policy moves
    rw [perform_snoc]
    cases move with
    | begin => rw [ledger_move_begin, ih, unmatched_snoc_begin]
    | apply count =>
      rw [unmatched_snoc_apply, ← hexpected]
      split
      · rename_i h
        rw [ledger_move_apply_of_eq h, ih]
      · rename_i h
        rw [ledger_move_apply_of_ne h]
        rfl
    | observe total =>
      rw [unmatched_snoc_observe, ← hexpected]
      split
      · rename_i h
        rw [ledger_move_observe_of_eq h]
        rfl
      · rename_i h
        rw [ledger_move_observe_of_ne h, Streak.toNat_next, ih]
        omega

/-- A fresh reconciler keeps the latest total exactly while totals are unmatched. -/
theorem lastMismatch_perform (moves : List Move) :
    (({ policy } : Reconciler).perform moves).ledger.lastMismatch =
      if unmatched moves = 0 then none else lastTotal? moves := by
  induction moves using List.reverseRecOn with
  | nil => rfl
  | append_singleton moves move ih =>
    have hexpected := expected_perform policy moves
    rw [perform_snoc]
    cases move with
    | begin => rw [ledger_move_begin, ih, unmatched_snoc_begin, lastTotal?_snoc_begin]
    | apply count =>
      rw [unmatched_snoc_apply, ← hexpected, lastTotal?_snoc_apply]
      split
      · rename_i h
        rw [ledger_move_apply_of_eq h, ih]
      · rename_i h
        rw [ledger_move_apply_of_ne h, if_pos rfl]
    | observe total =>
      rw [unmatched_snoc_observe, ← hexpected, lastTotal?_snoc_observe]
      split
      · rename_i h
        rw [ledger_move_observe_of_eq h, if_pos rfl]
      · rename_i h
        rw [ledger_move_observe_of_ne h, if_neg (by omega)]

/-- The cycle number of a fresh reconciler counts the started cycles, as long as it can hold
them. -/
theorem cycle_perform {moves : List Move} (hcycles : moves.countP isBegin < 2 ^ 64) :
    (({ policy } : Reconciler).perform moves).ledger.cycle.toNat = moves.countP isBegin := by
  induction moves using List.reverseRecOn with
  | nil => rfl
  | append_singleton moves move ih =>
    rw [List.countP_append, List.countP_singleton] at hcycles
    have hmoves := ih (by omega)
    rw [perform_snoc, List.countP_append, List.countP_singleton]
    cases move with
    | begin =>
      rw [ledger_move_begin]
      simp only [isBegin, if_true] at hcycles ⊢
      rw [UInt64.toNat_add, hmoves, UInt64.toNat_one, Nat.mod_eq_of_lt hcycles]
    | apply count =>
      by_cases h : count = (({ policy } : Reconciler).perform moves).ledger.expected
      · rw [ledger_move_apply_of_eq h, hmoves]
        rfl
      · rw [ledger_move_apply_of_ne h]
        exact hmoves
    | observe total =>
      by_cases h : total = (({ policy } : Reconciler).perform moves).ledger.expected
      · rw [ledger_move_observe_of_eq h]
        exact hmoves
      · rw [ledger_move_observe_of_ne h]
        exact hmoves

/-- While totals are unmatched, a fresh reconciler keeps the latest of them, and it is not the
expected count. -/
theorem lastMismatch_perform_of_unmatched {moves : List Move} (h : unmatched moves ≠ 0) :
    ∃ total, lastTotal? moves = some total ∧
      (({ policy } : Reconciler).perform moves).ledger.lastMismatch = some total ∧
      total ≠ (({ policy } : Reconciler).perform moves).ledger.expected := by
  obtain ⟨total, htotal, hne⟩ := exists_lastTotal?_of_unmatched h
  refine ⟨total, htotal, ?_, ?_⟩
  · rw [lastMismatch_perform, if_neg h, htotal]
  · rw [expected_perform]
    exact hne

/-- A threshold of zero acts like a threshold of one, because without an unmatched total there is
nothing to report. -/
theorem escalated_perform (moves : List Move) :
    (({ policy } : Reconciler).perform moves).escalated =
      if max 1 policy.escalateAfter.toNat ≤ unmatched moves then lastTotal? moves else none := by
  have hbound := policy.escalateAfter.toNat_lt
  have hstreak := mismatches_perform policy moves
  unfold escalated
  rw [policy_perform, lastMismatch_perform]
  simp only [UInt32.le_iff_toNat_le, hstreak]
  by_cases hzero : unmatched moves = 0
  · rw [if_pos hzero, ite_self, if_neg (by omega)]
  · rw [if_neg hzero]
    by_cases hlong : max 1 policy.escalateAfter.toNat ≤ unmatched moves
    · rw [if_pos hlong, if_pos (by omega)]
    · rw [if_neg hlong, if_neg (by omega)]

/-- What a reconciler remembers after any operations in any order is a function of how many totals
were compared since the latest reset point: the streak is that number, held at the greatest run
length, and phase, kept total and reported total follow from it. -/
theorem ledger_perform_eq_history (moves : List Move) (hcycles : moves.countP isBegin < 2 ^ 64) :
    let r := ({ policy } : Reconciler).perform moves
    let n := unmatched moves
    r.ledger.expected = expectedAfter moves ∧
      r.ledger.mismatches.toNat = min n (2 ^ 32 - 1) ∧
      (r.ledger.phase = .synced ↔ n = 0) ∧
      (n ≠ 0 → r.ledger.phase = .mismatched r.ledger.mismatches) ∧
      (r.ledger.lastMismatch = none ↔ n = 0) ∧
      (n ≠ 0 → ∃ total, lastTotal? moves = some total ∧ r.ledger.lastMismatch = some total ∧
        total ≠ r.ledger.expected) ∧
      r.ledger.cycle.toNat = moves.countP isBegin ∧
      (r.escalated.isSome ↔ max 1 policy.escalateAfter.toNat ≤ n) ∧
      (r.escalated.isSome → r.escalated = r.ledger.lastMismatch) := by
  intro r n
  have hstreak : r.ledger.mismatches.toNat = min n (2 ^ 32 - 1) := mismatches_perform policy moves
  have hzero : r.ledger.mismatches = 0 ↔ n = 0 := by
    rw [← UInt32.toNat_inj, hstreak, UInt32.toNat_zero]
    omega
  have hlast (h : n ≠ 0) := lastMismatch_perform_of_unmatched policy h
  have hescalated := escalated_perform policy moves
  refine ⟨expected_perform policy moves, hstreak, Ledger.phase_eq_synced_iff.trans hzero,
    fun h => Ledger.phase_of_ne (mt hzero.mp h), ?_, hlast, cycle_perform policy hcycles, ?_, ?_⟩
  · constructor
    · intro hnone
      by_contra h
      obtain ⟨total, _, hsome, _⟩ := hlast h
      rw [hsome] at hnone
      cases hnone
    · intro h
      rw [lastMismatch_perform, if_pos h]
  · rw [hescalated]
    split
    · rename_i hlong
      obtain ⟨total, htotal, _⟩ := hlast (by omega)
      rw [htotal]
      exact iff_of_true rfl hlong
    · rename_i hshort
      exact iff_of_false (by simp) hshort
  · rw [hescalated]
    split
    · rename_i hlong
      obtain ⟨total, htotal, hsome, _⟩ := hlast (by omega)
      intro _
      rw [htotal, hsome]
    · intro h
      exact absurd h (by simp)

/-- Two totals in a row that differ from the expected count are reported under the standard
policy. -/
theorem ledger_perform_two_mismatches :
    ([.begin, .apply 4, .observe 3, .begin, .observe 5] : List Move).countP isBegin < 2 ^ 64 ∧
      (({ policy := .standard } : Reconciler).perform
        [.begin, .apply 4, .observe 3, .begin, .observe 5]).escalated = some 5 := by
  refine ⟨by decide, ?_⟩
  obtain ⟨_, _, _, _, _, hlast, _, hsome, heq⟩ := ledger_perform_eq_history .standard
    [.begin, .apply 4, .observe 3, .begin, .observe 5] (by decide)
  obtain ⟨total, htotal, hkept, _⟩ := hlast (by decide)
  rw [heq (hsome.mpr (by decide)), hkept, ← htotal]
  rfl

end Reconciler

end PollAudit
