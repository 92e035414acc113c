import Mathlib.Data.List.Induction
import PollAudit.Audit.Reconciler

namespace PollAudit

/-- An operation that changes a reconciler. -/
inductive Move
  | begin
  | apply (count : Count)
  | observe (total : Count)
deriving DecidableEq, Repr

namespace Move

/-- The operation starts a cycle. -/
def isBegin : Move → Bool
  | begin => true
  | _ => false

/-- The operation compares a total. -/
def isObserve : Move → Bool
  | observe _ => true
  | _ => false

/-- The count that the operation hands over. -/
def applied? : Move → Option Count
  | apply count => some count
  | _ => none

/-- The total that the operation compares. -/
def observed? : Move → Option Count
  | observe total => some total
  | _ => none

/-- The count handed over last, or zero before the first one. -/
def expectedAfter (moves : List Move) : Count :=
  ((moves.filterMap applied?).getLast?).getD 0

/-- The total compared last. -/
def lastTotal? (moves : List Move) : Option Count :=
  (moves.filterMap observed?).getLast?

/-- The operation ends every streak when it meets `expected` as the expected count: a total that
equals it, or a count that differs from it. -/
def resets (expected : Count) : Move → Bool
  | begin => false
  | apply count => count != expected
  | observe total => total == expected

@[simp] theorem expectedAfter_nil : expectedAfter [] = 0 := rfl

@[simp] theorem expectedAfter_snoc_begin (moves : List Move) :
    expectedAfter (moves ++ [begin]) = expectedAfter moves := by
  simp [expectedAfter, applied?]

/-- The last count that was applied is expected. -/
@[simp] theorem expectedAfter_snoc_apply (moves : List Move) (count : Count) :
    expectedAfter (moves ++ [apply count]) = count := by
  simp [expectedAfter, applied?]

@[simp] theorem expectedAfter_snoc_observe (moves : List Move) (total : Count) :
    expectedAfter (moves ++ [observe total]) = expectedAfter moves := by
  simp [expectedAfter, applied?]

@[simp] theorem lastTotal?_snoc_begin (moves : List Move) :
    lastTotal? (moves ++ [begin]) = lastTotal? moves := by
  simp [lastTotal?, observed?]

@[simp] theorem lastTotal?_snoc_apply (moves : List Move) (count : Count) :
    lastTotal? (moves ++ [apply count]) = lastTotal? moves := by
  simp [lastTotal?, observed?]

/-- The last total that was observed is remembered. -/
@[simp] theorem lastTotal?_snoc_observe (moves : List Move) (total : Count) :
    lastTotal? (moves ++ [observe total]) = some total := by
  simp [lastTotal?, observed?]

end Move

/-- The phase is synced exactly if there are no mismatches. -/
theorem Ledger.phase_eq_synced_iff {ledger : Ledger} :
    ledger.phase = .synced ↔ ledger.mismatches = 0 := by
  unfold Ledger.phase
  split
  · rename_i h
    exact iff_of_true rfl h
  · rename_i h
    exact iff_of_false nofun h

/-- With mismatches the phase shows how many there are. -/
theorem Ledger.phase_of_ne {ledger : Ledger} (h : ledger.mismatches ≠ 0) :
    ledger.phase = .mismatched ledger.mismatches :=
  if_neg h

namespace Reconciler

/-- One operation, its answer aside. -/
def move (r : Reconciler) : Move → Reconciler
  | .begin => r.begin.2
  | .apply count => (r.applyExpected count).2
  | .observe total => (r.observe total).2

/-- Operations one after the other. -/
def perform (r : Reconciler) (moves : List Move) : Reconciler :=
  moves.foldl move r

@[simp] theorem perform_nil (r : Reconciler) : r.perform [] = r := rfl

@[simp] theorem perform_cons (r : Reconciler) (move : Move) (moves : List Move) :
    r.perform (move :: moves) = (r.move move).perform moves := rfl

/-- Moves can be made in two goes. -/
@[simp] theorem perform_append (r : Reconciler) (before later : List Move) :
    r.perform (before ++ later) = (r.perform before).perform later :=
  List.foldl_append

@[simp] theorem policy_move (r : Reconciler) (move : Move) : (r.move move).policy = r.policy := by
  cases move with
  | begin => rfl
  | apply count =>
    simp only [Reconciler.move, applyExpected]
    split <;> rfl
  | observe total =>
    simp only [Reconciler.move, observe]
    split <;> rfl

/-- No moves change the policy. -/
@[simp] theorem policy_perform (r : Reconciler) (moves : List Move) :
    (r.perform moves).policy = r.policy := by
  induction moves generalizing r with
  | nil => rfl
  | cons move moves ih => rw [perform_cons, ih, policy_move]

/-- A begin counts a cycle. -/
theorem ledger_move_begin (r : Reconciler) :
    (r.move .begin).ledger = { r.ledger with cycle := r.ledger.cycle + 1 } := rfl

/-- To apply the expected count does nothing. -/
theorem ledger_move_apply_of_eq {r : Reconciler} {count : Count} (h : count = r.ledger.expected) :
    (r.move (.apply count)).ledger = r.ledger := by
  simp [move, applyExpected, h]

/-- Another count is expected from now on, and the mismatches are forgotten. -/
theorem ledger_move_apply_of_ne {r : Reconciler} {count : Count} (h : count ≠ r.ledger.expected) :
    (r.move (.apply count)).ledger =
      { r.ledger with expected := count, mismatches := 0, lastMismatch := none } := by
  simp [move, applyExpected, h]

/-- A total that matches ends a streak. -/
theorem ledger_move_observe_of_eq {r : Reconciler} {total : Count} (h : total = r.ledger.expected) :
    (r.move (.observe total)).ledger = { r.ledger with mismatches := 0, lastMismatch := none } := by
  simp [move, observe, h]

/-- A total that does not match makes the streak longer and is remembered. -/
theorem ledger_move_observe_of_ne {r : Reconciler} {total : Count} (h : total ≠ r.ledger.expected) :
    (r.move (.observe total)).ledger =
      { r.ledger with mismatches := r.ledger.mismatches.next, lastMismatch := some total } := by
  simp [move, observe, h]

@[simp] theorem expected_move_begin (r : Reconciler) :
    (r.move .begin).ledger.expected = r.ledger.expected := rfl

/-- Whatever was expected before, a count that was handed over is what is expected next. -/
@[simp] theorem expected_move_apply (r : Reconciler) (count : Count) :
    (r.move (.apply count)).ledger.expected = count := by
  by_cases h : count = r.ledger.expected
  · rw [ledger_move_apply_of_eq h, h]
  · rw [ledger_move_apply_of_ne h]

/-- No total changes what is expected. -/
@[simp] theorem expected_move_observe (r : Reconciler) (total : Count) :
    (r.move (.observe total)).ledger.expected = r.ledger.expected := by
  by_cases h : total = r.ledger.expected
  · rw [ledger_move_observe_of_eq h]
  · rw [ledger_move_observe_of_ne h]

/-- What is expected after some operations is the count handed over last among them. -/
theorem expected_perform_eq_getLast? (r : Reconciler) (moves : List Move) :
    (r.perform moves).ledger.expected =
      ((moves.filterMap Move.applied?).getLast?).getD r.ledger.expected := by
  induction moves using List.reverseRecOn with
  | nil => rfl
  | append_singleton moves move ih =>
    rw [perform_append, perform_cons, perform_nil, List.filterMap_append]
    cases move with
    | begin => simpa [Move.applied?] using ih
    | apply count => simp [Move.applied?]
    | observe total => simpa [Move.applied?] using ih

private theorem cycle_move (r : Reconciler) (move : Move) :
    (r.move move).ledger.cycle = r.ledger.cycle + if move.isBegin then 1 else 0 := by
  cases move with
  | begin => rfl
  | apply count =>
    simp only [Reconciler.move, applyExpected]
    split <;> simp [Move.isBegin]
  | observe total =>
    simp only [Reconciler.move, observe]
    split <;> simp [Move.isBegin]

/-- Only the start of a cycle counts it. -/
theorem cycle_perform_of_not_begin (r : Reconciler) {moves : List Move}
    (h : ∀ move ∈ moves, move.isBegin = false) :
    (r.perform moves).ledger.cycle = r.ledger.cycle := by
  induction moves generalizing r with
  | nil => rfl
  | cons move moves ih =>
    rw [perform_cons, ih _ fun later hlater => h later (List.mem_cons_of_mem _ hlater), cycle_move,
      h move List.mem_cons_self]
    exact UInt64.add_zero _

end Reconciler

end PollAudit
