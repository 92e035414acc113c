import PollAudit.Audit.Script
import PollAudit.Proofs.Session.Streak

namespace PollAudit

private theorem Streak.next_ne_zero (s : Streak) : s.next ≠ 0 := by
  intro h
  have hvalue := congrArg UInt32.toNat h
  rw [toNat_next, UInt32.toNat_zero] at hvalue
  omega

private theorem Aggregate.toNat_total_eq (aggregate : Aggregate) :
    aggregate.total.toNat = min (2 ^ 64 - 1)
      (aggregate.inFlight.toNat + aggregate.queue.toNat + aggregate.standby.toNat) := by
  rw [total, Count.toNat_plus, Count.toNat_plus]
  omega

namespace Session

variable {σ : Type} {s : Session σ} {report : CycleReport}

/-- A mismatching cycle that did not fail has fetched the tree anew, and it either left the
expected count alone or changed it. -/
theorem forcedChange_or_of_mismatches (hok : s.account.failure? = none) (h : s.Mismatches) :
    s.forcedCount? = some s.held ∨ s.ForcedChange := by
  obtain ⟨count, hcount⟩ := Option.isSome_iff_exists.mp ((forcedCount?_isSome_iff hok).mpr h)
  by_cases hheld : count = s.held
  · exact .inl (hheld ▸ hcount)
  · exact .inr ⟨count, hcount, hheld⟩

private theorem not_forcedChange (h : s.forcedCount? = some s.held) : ¬ s.ForcedChange := by
  rintro ⟨count, hcount, hne⟩
  rw [h, Option.some.injEq] at hcount
  exact hne hcount.symm

/-- A total that differs from the count that it is compared with, under a forced refresh that leaves
this count alone, is what the cycle remembers. -/
theorem ledger_next_of_unchanged {total : Count} (htotal : s.total? = some total)
    (hne : total ≠ s.held) (hforced : s.forcedCount? = some s.held) :
    s.next.monitor.reconciler.ledger.phase =
        .mismatched s.next.monitor.reconciler.ledger.mismatches ∧
      s.next.monitor.reconciler.ledger.mismatches ≠ 0 ∧
      s.next.monitor.reconciler.ledger.lastMismatch = some total ∧
      s.next.monitor.expected = s.held := by
  obtain ⟨hstreak, hlast⟩ := ledger_next_of_mismatch htotal hne (not_forcedChange hforced)
  have hpositive : s.next.monitor.reconciler.ledger.mismatches ≠ 0 := by
    rw [hstreak]
    exact Streak.next_ne_zero _
  refine ⟨Ledger.phase_of_ne hpositive, hpositive, hlast, ?_⟩
  rw [expected_next htotal, hforced, Option.getD_some]

/-- Any other cycle that did not fail ends synced and has nothing to report. -/
theorem ledger_next_of_synced (hok : s.account.failure? = none) {total : Count}
    (htotal : s.total? = some total)
    (h : ¬ (total ≠ s.held ∧ s.forcedCount? = some s.held)) :
    s.next.monitor.reconciler.ledger.phase = .synced ∧
      s.next.monitor.reconciler.ledger.lastMismatch = none := by
  have hother : ¬ (s.Mismatches ∧ ¬ s.ForcedChange) := by
    rintro ⟨hmismatch, hchange⟩
    have hforced := (forcedChange_or_of_mismatches hok hmismatch).resolve_right hchange
    obtain ⟨other, hfound, hne⟩ := hmismatch
    rw [htotal, Option.some.injEq] at hfound
    exact h ⟨hfound ▸ hne, hforced⟩
  obtain ⟨hstreak, hlast⟩ := ledger_next_of_not_mismatch hok hother
  exact ⟨Ledger.phase_eq_synced_iff.mpr hstreak, hlast⟩

/-- A cycle that did not mismatch under an unchanged count expects something else than its total
exactly if its forced refresh moved the count to a third value. -/
theorem expected_next_ne_total_iff (hok : s.account.failure? = none) {total : Count}
    (htotal : s.total? = some total)
    (h : ¬ (total ≠ s.held ∧ s.forcedCount? = some s.held)) :
    s.next.monitor.expected ≠ total ↔
      ∃ count, s.forcedCount? = some count ∧ count ≠ s.held ∧ count ≠ total := by
  rw [expected_next htotal]
  by_cases hheld : total = s.held
  · simp [forcedCount?_eq_none hok htotal hheld, hheld]
  · obtain ⟨count, hcount⟩ := Option.isSome_iff_exists.mp
      ((forcedCount?_isSome_iff hok).mpr ⟨total, htotal, hheld⟩)
    have hchanged : count ≠ s.held := fun heq => h ⟨hheld, heq ▸ hcount⟩
    simp [hcount, hchanged]

/-- Every report agrees with itself, whatever the monitor remembers and whatever its source
answers. The total is the sum of the three counters. The phase is a mismatch exactly if the total
differs from the count it was compared with and the refresh that this forces leaves the count
alone, and then the expected count differs from the total. A synced report expects something else
than its total exactly if the forced refresh moved the count to a third value. And the incorrect
count is the total of a mismatch whose streak has reached the threshold. -/
theorem consistent_of_report (h : s.reply.result = .ok report) :
    report.total.toNat =
        min (2 ^ 64 - 1) (report.inFlight.toNat + report.queue.toNat + report.standby.toNat) ∧
      ((∃ streak, report.phase = .mismatched streak) ↔
        report.total ≠ s.held ∧ s.forcedCount? = some s.held) ∧
      (∀ streak, report.phase = .mismatched streak →
        1 ≤ streak ∧ report.expected ≠ report.total) ∧
      (report.phase = .synced ∧ report.expected ≠ report.total ↔
        ∃ count, s.forcedCount? = some count ∧ count ≠ s.held ∧ count ≠ report.total) ∧
      ∀ v, report.incorrect = some v ↔ ∃ streak, report.phase = .mismatched streak ∧
        s.monitor.reconciler.policy.escalateAfter ≤ streak ∧ v = report.total := by
  have hok := (reply_result_eq_ok_iff.mp h).1
  obtain ⟨aggregate, _, htotal, rfl⟩ := exists_aggregate_of_reply h
  have hsum := aggregate.toNat_total_eq
  by_cases hunchanged : aggregate.total ≠ s.held ∧ s.forcedCount? = some s.held
  · obtain ⟨hphase, hpositive, hlast, hheld⟩ :=
      ledger_next_of_unchanged htotal hunchanged.1 hunchanged.2
    refine ⟨hsum, iff_of_true ⟨_, hphase⟩ hunchanged, ?_, ?_, ?_⟩
    · intro streak hstreak
      obtain rfl : _ = streak := Phase.mismatched.inj (hphase.symm.trans hstreak)
      refine ⟨?_, fun heq => hunchanged.1 (heq.symm.trans hheld)⟩
      rw [UInt32.le_iff_toNat_le, UInt32.toNat_one]
      exact Nat.pos_of_ne_zero fun hzero => hpositive (UInt32.toNat_inj.mp hzero)
    · refine iff_of_false (fun hsynced => ?_) ?_
      · cases hphase.symm.trans hsynced.1
      · rintro ⟨count, hcount, hne, _⟩
        rw [hunchanged.2, Option.some.injEq] at hcount
        exact hne hcount.symm
    · intro v
      simp only [Reconciler.report, Reconciler.escalated, hphase, hlast, next_policy,
        Phase.mismatched.injEq, exists_eq_left']
      split
      · rename_i hlong
        simp [hlong, eq_comm]
      · rename_i hshort
        simp [hshort]
  · obtain ⟨hphase, hlast⟩ := ledger_next_of_synced hok htotal hunchanged
    refine ⟨hsum, iff_of_false ?_ hunchanged, ?_, ?_, ?_⟩
    · rintro ⟨streak, hstreak⟩
      cases hphase.symm.trans hstreak
    · intro streak hstreak
      cases hphase.symm.trans hstreak
    · exact (and_iff_right hphase).trans (expected_next_ne_total_iff hok htotal hunchanged)
    · intro v
      refine iff_of_false ?_ ?_
      · simp [Reconciler.report, Reconciler.escalated, hlast]
      · rintro ⟨streak, hstreak, _⟩
        cases hphase.symm.trans hstreak

/-- A network that grows from two points to three while its first cycle runs. The polling engine
holds one of them all the time. -/
def drifting : ScriptedSource where
  listings := .ok [⟨⟨"a"⟩, "A", "modbus", true⟩]
  trees :=
    [.ok [⟨⟨"a"⟩, "A", "modbus", true, [⟨true, [⟨true⟩, ⟨true⟩]⟩]⟩],
     .ok [⟨⟨"a"⟩, "A", "modbus", true, [⟨true, [⟨true⟩, ⟨true⟩, ⟨true⟩]⟩]⟩]]
  stats := [("A", [⟨.ok { enabled := true, queue := 1 }, 0⟩])]

/-- The session that starts on such a network. -/
def ofDrifting : Session ScriptedSource where
  source := ScriptedSource.source
  monitor := ⟨"modbus", ⟨[⟨⟨"a"⟩, "A"⟩]⟩, ⟨.standard, {}⟩⟩
  world := { drifting with listingCalls := 1 }

/-- Its reports. -/
def driftingReport (i : Nat) : CycleReport where
  cycle := .ofNat (i + 1)
  lockouts := false
  expected := 3
  total := 1
  inFlight := 0
  queue := 1
  standby := 0
  phase := if i = 0 then .synced else .mismatched (.ofNat i)
  incorrect := if i = 2 then some 1 else none

/-- Its first cycle ends synced and yet expects another count than its total, which the growth
explains. Its third one has a mismatch to report. -/
theorem consistent_of_drifting :
    (∀ i < 3, (ofDrifting.after i).reply.result = .ok (driftingReport i)) ∧
      (∃ count, (ofDrifting.after 0).forcedCount? = some count ∧
        count ≠ (ofDrifting.after 0).held ∧ count ≠ (driftingReport 0).total) ∧
      (ofDrifting.after 2).forcedCount? = some (ofDrifting.after 2).held ∧
      ∃ streak, (driftingReport 2).phase = .mismatched streak ∧
        ofDrifting.monitor.reconciler.policy.escalateAfter ≤ streak := by
  have hreports : ∀ i < 3, (ofDrifting.after i).reply.result = .ok (driftingReport i) := by
    decide +kernel
  obtain ⟨_, _, _, hthird, _⟩ := consistent_of_report (hreports 0 (by decide))
  obtain ⟨_, hmismatch, _, _, hincorrect⟩ := consistent_of_report (hreports 2 (by decide))
  obtain ⟨streak, hphase, hlong, _⟩ := (hincorrect 1).mp rfl
  exact ⟨hreports, hthird.mp ⟨rfl, by decide⟩, (hmismatch.mp ⟨streak, hphase⟩).2, streak, hphase,
    hlong⟩

end Session

end PollAudit
