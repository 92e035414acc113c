import PollAudit.Proofs.Count
import PollAudit.Proofs.Session.Basic

namespace PollAudit

namespace Reconciler

/-- A count that is the expected one already changes nothing. -/
theorem ledger_perform_apply_of_eq {r : Reconciler} {count? : Option Count}
    (h : ∀ count, count? = some count → count = r.ledger.expected) :
    (r.perform (count?.map .apply).toList).ledger = r.ledger := by
  cases count? with
  | none => rfl
  | some count => exact ledger_move_apply_of_eq (h count rfl)

/-- Whether a count is handed over or not, this is what is expected next. -/
theorem expected_perform_apply (r : Reconciler) (count? : Option Count) :
    (r.perform (count?.map .apply).toList).ledger.expected = count?.getD r.ledger.expected := by
  cases count? with
  | none => rfl
  | some count => exact expected_move_apply r count

end Reconciler

namespace Session

variable {σ : Type}

/-- The total of the next cycle differs from the count that it is compared with. -/
def Mismatches (s : Session σ) : Prop :=
  ∃ total, s.total? = some total ∧ total ≠ s.held

/-- The scheduled refresh of the next cycle changes the expected count. -/
def ScheduledChange (s : Session σ) : Prop :=
  ∃ count, s.scheduledCount? = some count ∧ count ≠ s.monitor.expected

/-- The forced refresh of the next cycle changes the expected count. -/
def ForcedChange (s : Session σ) : Prop :=
  ∃ count, s.forcedCount? = some count ∧ count ≠ s.held

/-- The run of mismatching cycles that a session remembers. -/
def streak (s : Session σ) : Streak :=
  s.monitor.reconciler.ledger.mismatches

variable {s : Session σ}

/-- Failed or not, a cycle asks for the tree anew exactly when it mismatches. -/
theorem forced_isSome_iff : s.account.forced.isSome ↔ s.Mismatches :=
  Monitor.account_forced_isSome_iff s.source s.monitor s.world

/-- The reconciler as it stands when the next cycle compares its total. -/
def opened (s : Session σ) : Reconciler :=
  s.monitor.reconciler.perform (s.account.openingMoves s.monitor.watched)

/-- A cycle opens with its begin and the count of the scheduled tree. -/
theorem opened_eq : s.opened =
    (s.monitor.reconciler.move .begin).perform (s.scheduledCount?.map .apply).toList := rfl

/-- The count held when a cycle has opened is the one its samples are compared with. -/
theorem expected_opened : s.opened.ledger.expected = s.held :=
  Reconciler.expected_perform_apply _ _

private theorem mismatches_opened_of_change (h : s.ScheduledChange) :
    s.opened.ledger.mismatches = 0 := by
  obtain ⟨count, hcount, hne⟩ := h
  have hledger :=
    Reconciler.ledger_move_apply_of_ne (r := s.monitor.reconciler.move .begin) hne
  rw [opened_eq, hcount]
  exact congrArg Ledger.mismatches hledger

private theorem mismatches_opened_of_not_change (h : ¬ s.ScheduledChange) :
    s.opened.ledger.mismatches = s.streak := by
  rw [opened_eq, Reconciler.ledger_perform_apply_of_eq]
  · rfl
  · intro count hcount
    by_contra hne
    exact h ⟨count, hcount, hne⟩

/-- A cycle with a total observes it, and then hands over the count of a forced refresh. -/
theorem next_reconciler {total : Count} (htotal : s.total? = some total) :
    s.next.monitor.reconciler =
      (s.opened.move (.observe total)).perform (s.forcedCount?.map .apply).toList := by
  rw [next_monitor, Monitor.reconciler_perform, Account.moves, Reconciler.perform_append,
    Account.laterMoves, Reconciler.perform_append]
  change s.account.total? = some total at htotal
  rw [htotal]
  rfl

/-- A cycle with a total expects the count of its forced refresh behind it, and otherwise the one
that the total was compared with. -/
theorem expected_next {total : Count} (htotal : s.total? = some total) :
    s.next.monitor.expected = s.forcedCount?.getD s.held := by
  rw [Monitor.expected, next_reconciler htotal, Reconciler.expected_perform_apply,
    Reconciler.expected_move_observe, expected_opened]

/-- A matching cycle does not ask for the tree anew. -/
theorem forcedCount?_eq_none {total : Count} (hok : s.account.failure? = none)
    (htotal : s.total? = some total) (heq : total = s.held) : s.forcedCount? = none := by
  rw [← Option.not_isSome_iff_eq_none, forcedCount?_isSome_iff hok]
  rintro ⟨other, hother, hne⟩
  rw [htotal, Option.some.injEq] at hother
  exact hne (hother ▸ heq)

/-- A matching cycle leaves no streak and nothing to report. -/
theorem ledger_next_of_eq {total : Count} (hok : s.account.failure? = none)
    (htotal : s.total? = some total) (heq : total = s.held) :
    s.next.monitor.reconciler.ledger.mismatches = 0 ∧
      s.next.monitor.reconciler.ledger.lastMismatch = none := by
  rw [next_reconciler htotal, forcedCount?_eq_none hok htotal heq]
  have hledger := Reconciler.ledger_move_observe_of_eq (heq.trans expected_opened.symm)
  exact ⟨congrArg Ledger.mismatches hledger, congrArg Ledger.lastMismatch hledger⟩

/-- A forced refresh that changes the expected count leaves no streak and nothing to report. -/
theorem ledger_next_of_forcedChange {total : Count} (htotal : s.total? = some total)
    (hchange : s.ForcedChange) :
    s.next.monitor.reconciler.ledger.mismatches = 0 ∧
      s.next.monitor.reconciler.ledger.lastMismatch = none := by
  obtain ⟨count, hcount, hne⟩ := hchange
  rw [next_reconciler htotal, hcount]
  have hexpected : count ≠ (s.opened.move (.observe total)).ledger.expected := by
    rw [Reconciler.expected_move_observe, expected_opened]
    exact hne
  have hledger := Reconciler.ledger_move_apply_of_ne hexpected
  exact ⟨congrArg Ledger.mismatches hledger, congrArg Ledger.lastMismatch hledger⟩

/-- A mismatching cycle under an unchanged count makes the streak one longer and keeps its
total. -/
theorem ledger_next_of_mismatch {total : Count} (htotal : s.total? = some total)
    (hne : total ≠ s.held) (hchange : ¬ s.ForcedChange) :
    s.next.monitor.reconciler.ledger.mismatches = s.opened.ledger.mismatches.next ∧
      s.next.monitor.reconciler.ledger.lastMismatch = some total := by
  have hexpected : total ≠ s.opened.ledger.expected := by
    rw [expected_opened]
    exact hne
  have hledger := Reconciler.ledger_move_observe_of_ne hexpected
  rw [next_reconciler htotal, Reconciler.ledger_perform_apply_of_eq]
  · exact ⟨congrArg Ledger.mismatches hledger, congrArg Ledger.lastMismatch hledger⟩
  · intro count hcount
    rw [Reconciler.expected_move_observe, expected_opened]
    by_contra hother
    exact hchange ⟨count, hcount, hother⟩

/-- After a cycle that mismatched under an unchanged count, the streak counts it, and the streak
before it unless its scheduled refresh changed the count. -/
theorem toNat_streak_next_of_mismatch (hmismatch : s.Mismatches) (hchange : ¬ s.ForcedChange) :
    (s.ScheduledChange → s.next.streak.toNat = 1) ∧
      (¬ s.ScheduledChange → s.next.streak.toNat = min (2 ^ 32 - 1) (s.streak.toNat + 1)) := by
  obtain ⟨total, htotal, hne⟩ := hmismatch
  have hstreak : s.next.streak = s.opened.ledger.mismatches.next :=
    (ledger_next_of_mismatch htotal hne hchange).1
  rw [hstreak, Streak.toNat_next]
  constructor
  · intro hscheduled
    rw [mismatches_opened_of_change hscheduled]
    rfl
  · intro hscheduled
    rw [mismatches_opened_of_not_change hscheduled]

/-- A cycle that matched, or whose forced refresh changed the count, ends every streak. -/
theorem ledger_next_of_not_mismatch (hok : s.account.failure? = none)
    (h : ¬ (s.Mismatches ∧ ¬ s.ForcedChange)) :
    s.next.streak = 0 ∧ s.next.monitor.reconciler.ledger.lastMismatch = none := by
  obtain ⟨aggregate, haggregate⟩ := exists_aggregate? hok
  have htotal := total?_of_aggregate haggregate
  by_cases heq : aggregate.total = s.held
  · exact ledger_next_of_eq hok htotal heq
  · have hchange : s.ForcedChange := by
      by_contra hno
      exact h ⟨⟨_, htotal, heq⟩, hno⟩
    exact ledger_next_of_forcedChange htotal hchange

/-- A cycle without failing requests leaves a streak exactly if there is a mismatch and the forced
tree does not change the count. -/
theorem one_le_streak_next_iff (hok : s.account.failure? = none) :
    1 ≤ s.next.streak.toNat ↔ s.Mismatches ∧ ¬ s.ForcedChange := by
  by_cases h : s.Mismatches ∧ ¬ s.ForcedChange
  · obtain ⟨hchanged, hunchanged⟩ := toNat_streak_next_of_mismatch h.1 h.2
    refine iff_of_true ?_ h
    by_cases hscheduled : s.ScheduledChange
    · exact Nat.le_of_eq (hchanged hscheduled).symm
    · rw [hunchanged hscheduled]
      omega
  · have hzero := (ledger_next_of_not_mismatch hok h).1
    refine iff_of_false ?_ h
    rw [hzero]
    exact Nat.not_succ_le_zero 0

/-- The streak reaches past its first cycle exactly if the scheduled refresh left the count alone
and the streak was one shorter before. -/
theorem succ_le_streak_next_iff (hok : s.account.failure? = none) {m : Nat} (hm : 1 ≤ m)
    (hbound : m + 1 < 2 ^ 32) :
    m + 1 ≤ s.next.streak.toNat ↔
      m ≤ s.streak.toNat ∧ (s.Mismatches ∧ ¬ s.ForcedChange) ∧ ¬ s.ScheduledChange := by
  by_cases h : s.Mismatches ∧ ¬ s.ForcedChange
  · obtain ⟨hchanged, hunchanged⟩ := toNat_streak_next_of_mismatch h.1 h.2
    by_cases hscheduled : s.ScheduledChange
    · rw [hchanged hscheduled]
      exact iff_of_false (by omega) fun hall => hall.2.2 hscheduled
    · rw [hunchanged hscheduled]
      constructor
      · intro hle
        exact ⟨by omega, h, hscheduled⟩
      · rintro ⟨hle, _, _⟩
        omega
  · have hzero := (ledger_next_of_not_mismatch hok h).1
    rw [hzero]
    exact iff_of_false (Nat.not_succ_le_zero m) fun hall => h hall.2.1

end Session

end PollAudit
