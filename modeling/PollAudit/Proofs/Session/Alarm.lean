import PollAudit.Audit.Script
import PollAudit.Proofs.Session.Streak

namespace PollAudit.Session

variable {σ : Type}

/-- The last `m` of the first `k + 1` cycles mismatched, and no refresh behind the first of these
comparisons changed the expected count, be it forced or scheduled. -/
def Persists (s : Session σ) (m k : Nat) : Prop :=
  m ≤ k + 1 ∧
    (∀ i ≤ k, k < i + m → (s.after i).Mismatches ∧ ¬ (s.after i).ForcedChange) ∧
    ∀ i ≤ k, k + 1 < i + m → ¬ (s.after i).ScheduledChange

section Window

variable {s : Session σ}

private theorem persists_one_iff {k : Nat} :
    s.Persists 1 k ↔ (s.after k).Mismatches ∧ ¬ (s.after k).ForcedChange := by
  constructor
  · rintro ⟨_, hmismatch, _⟩
    exact hmismatch k (Nat.le_refl k) (by omega)
  · intro h
    refine ⟨by omega, ?_, ?_⟩
    · intro i hi hlt
      obtain rfl : i = k := by omega
      exact h
    · intro i hi hlt
      omega

/-- A longer window over one more cycle is the window before it and a cycle that neither matched
nor saw the count change. -/
theorem persists_succ_iff {m k : Nat} (hm : 1 ≤ m) :
    s.Persists (m + 1) (k + 1) ↔ s.Persists m k ∧ s.Persists 1 (k + 1) ∧
      ¬ (s.after (k + 1)).ScheduledChange := by
  constructor
  · rintro ⟨hlength, hmismatch, hscheduled⟩
    refine ⟨⟨by omega, ?_, ?_⟩, persists_one_iff.mpr (hmismatch (k + 1) (by omega) (by omega)),
      hscheduled (k + 1) (by omega) (by omega)⟩
    · intro i hi hlt
      exact hmismatch i (by omega) (by omega)
    · intro i hi hlt
      exact hscheduled i (by omega) (by omega)
  · rintro ⟨⟨hlength, hmismatch, hscheduled⟩, hlast, hnone⟩
    refine ⟨by omega, ?_, ?_⟩
    · intro i hi hlt
      rcases Nat.lt_or_ge k i with hlater | hearlier
      · obtain rfl : i = k + 1 := by omega
        exact persists_one_iff.mp hlast
      · exact hmismatch i hearlier (by omega)
    · intro i hi hlt
      rcases Nat.lt_or_ge k i with hlater | hearlier
      · obtain rfl : i = k + 1 := by omega
        exact hnone
      · exact hscheduled i hearlier (by omega)

/-- The streak of a fresh session is the longest window that persists, as far as a run length can
hold it. -/
theorem le_streak_iff (hfresh : s.streak = 0) {k : Nat}
    (hok : ∀ i ≤ k, (s.after i).account.failure? = none) {m : Nat} (hm : 1 ≤ m)
    (hbound : m < 2 ^ 32) : m ≤ (s.after (k + 1)).streak.toNat ↔ s.Persists m k := by
  have hone (k : Nat) (hk : (s.after k).account.failure? = none) :
      1 ≤ (s.after (k + 1)).streak.toNat ↔ s.Persists 1 k := by
    rw [persists_one_iff]
    exact one_le_streak_next_iff hk
  -- A window that ends one cycle earlier is one shorter, so the length varies with the cycle.
  induction k generalizing m with
  | zero =>
    rcases Nat.eq_or_lt_of_le hm with rfl | hmore
    · exact hone 0 (hok 0 (Nat.le_refl 0))
    · obtain ⟨m, rfl⟩ : ∃ shorter, m = shorter + 1 := ⟨m - 1, by omega⟩
      rw [after_succ, succ_le_streak_next_iff (hok 0 (Nat.le_refl 0)) (by omega) hbound, after_zero,
        hfresh]
      refine iff_of_false ?_ ?_
      · rintro ⟨hle, _⟩
        rw [UInt32.toNat_zero] at hle
        omega
      · rintro ⟨hlength, _⟩
        omega
  | succ k ih =>
    rcases Nat.eq_or_lt_of_le hm with rfl | hmore
    · exact hone (k + 1) (hok (k + 1) (Nat.le_refl _))
    · obtain ⟨m, rfl⟩ : ∃ shorter, m = shorter + 1 := ⟨m - 1, by omega⟩
      have hshorter : m ≤ (s.after (k + 1)).streak.toNat ↔ s.Persists m k :=
        ih (fun i hi => hok i (by omega)) (by omega) (by omega)
      rw [after_succ, succ_le_streak_next_iff (hok (k + 1) (Nat.le_refl _)) (by omega) hbound,
        persists_succ_iff (by omega), persists_one_iff, hshorter]

/-- What a cycle of a fresh session reports as incorrect. -/
theorem escalated_after_iff (hfresh : s.streak = 0) {k : Nat}
    (hok : ∀ i ≤ k, (s.after i).account.failure? = none) (v : Count) :
    (s.after (k + 1)).monitor.reconciler.escalated = some v ↔
      s.Persists (max 1 s.monitor.reconciler.policy.escalateAfter.toNat) k ∧
        (s.after k).total? = some v := by
  have hbound := s.monitor.reconciler.policy.escalateAfter.toNat_lt
  have hwindow := le_streak_iff hfresh hok (Nat.le_max_left 1
    s.monitor.reconciler.policy.escalateAfter.toNat) (by omega)
  have hlast := hok k (Nat.le_refl k)
  unfold Reconciler.escalated
  rw [after_policy]
  by_cases h : (s.after k).Mismatches ∧ ¬ (s.after k).ForcedChange
  · obtain ⟨⟨total, htotal, hne⟩, hchange⟩ := h
    have hone := (one_le_streak_next_iff hlast).mpr ⟨⟨total, htotal, hne⟩, hchange⟩
    have hkept := (ledger_next_of_mismatch htotal hne hchange).2
    rw [← hwindow, htotal, after_succ, hkept]
    change 1 ≤ (s.after k).next.monitor.reconciler.ledger.mismatches.toNat at hone
    change _ ↔ _ ≤ (s.after k).next.monitor.reconciler.ledger.mismatches.toNat ∧ _
    simp only [UInt32.le_iff_toNat_le]
    split
    · simp only [iff_and_self]
      omega
    · refine iff_of_false nofun ?_
      omega
  · have hnone := (ledger_next_of_not_mismatch hlast h).2
    rw [after_succ, hnone, ite_self]
    refine iff_of_false nofun ?_
    rintro ⟨⟨_, hmismatch, _⟩, _⟩
    exact h (hmismatch k (Nat.le_refl k) (by omega))

/-- A report carries the total of its own cycle, and what its reconciler reports as incorrect. -/
theorem fields_of_reply_eq_ok {report : CycleReport} (h : s.reply.result = .ok report) :
    s.total? = some report.total ∧ report.incorrect = s.next.monitor.reconciler.escalated := by
  obtain ⟨aggregate, _, htotal, rfl⟩ := exists_aggregate_of_reply h
  exact ⟨htotal, rfl⟩

end Window

/-- In a run without failures the alarm is exact. The report of a cycle carries an incorrect count
if and only if the last `m` cycles all mismatched and no refresh behind the first of these
comparisons changed the expected count, and then it is the total of that cycle. So with a
threshold of two a single mismatching cycle is never reported, and a mismatch that persists under
an unchanged count is reported from its `m`-th cycle on for as long as it lasts. -/
theorem incorrect_eq_some_iff_persists {source : Source (StateM σ)} {plugin : String}
    {policy : Policy} {world : σ} {s : Session σ} (hstart : start source plugin policy world = .ok s)
    {n : Nat} {reports : Nat → CycleReport}
    (hreports : ∀ i < n, (s.after i).reply.result = .ok (reports i)) :
    let m := max 1 policy.escalateAfter.toNat
    (∀ k < n, (s.after k).total? = some (reports k).total ∧
      ∀ v, (reports k).incorrect = some v ↔ s.Persists m k ∧ v = (reports k).total) ∧
    (policy.escalateAfter = 2 → ∀ k < n, (∀ i, i + 1 = k → ¬ (s.after i).Mismatches) →
      (reports k).incorrect = none) ∧
    ∀ first k, first + m ≤ k + 1 → k < n →
      (∀ i, first ≤ i → i ≤ k → (s.after i).Mismatches ∧ ¬ (s.after i).ForcedChange) →
      (∀ i, first < i → i ≤ k → ¬ (s.after i).ScheduledChange) →
      (reports k).incorrect = some (reports k).total := by
  intro m
  have hfresh : s.streak = 0 := by
    rw [streak, start_reconciler hstart]
  have hpolicy : s.monitor.reconciler.policy = policy := by
    rw [start_reconciler hstart]
  have hexact (k : Nat) (hk : k < n) : (s.after k).total? = some (reports k).total ∧
      ∀ v, (reports k).incorrect = some v ↔ s.Persists m k ∧ v = (reports k).total := by
    obtain ⟨htotal, hincorrect⟩ := fields_of_reply_eq_ok (hreports k hk)
    have hok : ∀ i ≤ k, (s.after i).account.failure? = none := fun i hi =>
      (reply_result_eq_ok_iff.mp (hreports i (by omega))).1
    refine ⟨htotal, fun v => ?_⟩
    rw [hincorrect, ← after_succ, escalated_after_iff hfresh hok, hpolicy, htotal,
      Option.some.injEq, eq_comm (a := v)]
  refine ⟨hexact, ?_, ?_⟩
  · intro htwo k hk hsingle
    by_contra hsome
    obtain ⟨v, hv⟩ := Option.ne_none_iff_exists'.mp hsome
    obtain ⟨⟨hlength, hmismatch, _⟩, _⟩ := ((hexact k hk).2 v).mp hv
    have hm : m = 2 := by
      simp [m, htwo]
    have hbefore : (s.after (k - 1)).Mismatches := (hmismatch (k - 1) (by omega) (by omega)).1
    exact hsingle (k - 1) (by omega) hbefore
  · intro first k hlength hk hmismatch hscheduled
    refine ((hexact k hk).2 _).mpr ⟨⟨by omega, ?_, ?_⟩, rfl⟩
    · intro i hi hlt
      exact hmismatch i (by omega) hi
    · intro i hi hlt
      exact hscheduled i (by omega) hi

/-- A network with two enabled points of which the polling engine holds one in every cycle. -/
def shortfall : ScriptedSource where
  listings := .ok [⟨⟨"a"⟩, "A", "modbus", true⟩]
  trees := [.ok [⟨⟨"a"⟩, "A", "modbus", true, [⟨true, [⟨true⟩, ⟨true⟩]⟩]⟩]]
  stats := [("A", [⟨.ok { enabled := true, queue := 1 }, 0⟩])]

/-- The session that starts on such a network. -/
def ofShortfall : Session ScriptedSource where
  source := ScriptedSource.source
  monitor := ⟨"modbus", ⟨[⟨⟨"a"⟩, "A"⟩]⟩, ⟨.standard, {}⟩⟩
  world := { shortfall with listingCalls := 1 }

/-- Its reports. -/
def shortfallReport (i : Nat) : CycleReport where
  cycle := .ofNat (i + 1)
  lockouts := false
  expected := 2
  total := 1
  inFlight := 0
  queue := 1
  standby := 0
  phase := .mismatched (.ofNat (i + 1))
  incorrect := if i = 0 then none else some 1

/-- A lasting shortfall is reported in its second cycle. -/
theorem incorrect_of_shortfall :
    start ScriptedSource.source "modbus" .standard shortfall = .ok ofShortfall ∧
      (∀ i < 2, (ofShortfall.after i).reply.result = .ok (shortfallReport i)) ∧
      (shortfallReport 1).incorrect = some (shortfallReport 1).total := by
  have hstart : start ScriptedSource.source "modbus" .standard shortfall = .ok ofShortfall := rfl
  have hreports : ∀ i < 2, (ofShortfall.after i).reply.result = .ok (shortfallReport i) := by
    decide +kernel
  have htotal : ∀ i < 2, (ofShortfall.after i).total? = some 1 := by decide +kernel
  have hheld : ∀ i < 2, (ofShortfall.after i).held = 2 := by decide +kernel
  have hforced : ∀ i < 2, (ofShortfall.after i).forcedCount? = some 2 := by decide +kernel
  have hscheduled : (ofShortfall.after 1).scheduledCount? = none := by decide +kernel
  obtain ⟨_, _, hlasting⟩ := incorrect_eq_some_iff_persists hstart hreports
  refine ⟨hstart, hreports, hlasting 0 1 (by decide) (by decide) ?_ ?_⟩
  · intro i _ hi
    refine ⟨⟨1, htotal i (by omega), ?_⟩, ?_⟩
    · rw [hheld i (by omega)]
      decide
    · rintro ⟨count, hcount, hne⟩
      rw [hforced i (by omega), Option.some.injEq] at hcount
      exact hne (hcount ▸ (hheld i (by omega)).symm)
  · intro i hlt hi
    obtain rfl : i = 1 := by omega
    rintro ⟨count, hcount, _⟩
    rw [hscheduled] at hcount
    cases hcount

end PollAudit.Session
