import PollAudit.Proofs.Machine.Cycle
import PollAudit.Proofs.Session.Exchange

namespace PollAudit

namespace Session

variable {σ : Type} (s : Session σ)

/-- The answers that the batches of the next cycle give; a cycle has at most one. -/
def samplings : List (Reply (List LiveStats)) :=
  s.account.batch.toList

/-- The counts that the next cycle gets to know. -/
def counts : List (Except Failure Count) :=
  s.trees.map (Reply.count s.monitor.watched)

/-- The readings that the next cycle gets to know. -/
def readings : List (Except Failure Reading) :=
  s.samplings.map Reply.reading

/-- What the first `n` cycles show, one cycle after the other. -/
def during {α : Type} (observe : Session σ → List α) (n : Nat) : List α :=
  (List.range n).flatMap fun i => observe (s.after i)

section During

variable {α β : Type} (observe : Session σ → List α)

/-- One cycle more adds what it shows. -/
theorem during_succ (n : Nat) :
    s.during observe (n + 1) = s.during observe n ++ observe (s.after n) := by
  simp [during, List.range_succ]

/-- The entries of a cycle stand behind those of the cycles before it, and before all others. -/
theorem getElem?_during {n m k : Nat} {a : α} (hn : n < m) (h : (observe (s.after n))[k]? = some a) :
    (s.during observe m)[(s.during observe n).length + k]? = some a := by
  induction m with
  | zero => cases hn
  | succ m ih =>
    rw [during_succ]
    rcases Nat.lt_succ_iff_lt_or_eq.mp hn with hlt | rfl
    · obtain ⟨hbound, _⟩ := List.getElem?_eq_some_iff.mp (ih hlt)
      rw [List.getElem?_append_left hbound]
      exact ih hlt
    · rw [List.getElem?_append_right (Nat.le_add_right _ _), Nat.add_sub_cancel_left]
      exact h

/-- The counts of a run are those of its trees. -/
theorem during_counts (n : Nat) :
    s.during counts n = (s.during trees n).map (Reply.count s.monitor.watched) := by
  simp only [during, List.map_flatMap, counts, after_watched]

/-- The readings of a run are those of its batches. -/
theorem during_readings (n : Nat) :
    s.during readings n = (s.during samplings n).map Reply.reading := by
  simp only [during, List.map_flatMap, readings]

end During

/-- A machine that starts from the same reconciler. -/
def machine : Machine := ⟨s.monitor.reconciler, 0, 0⟩

end Session

/-- The figures begin with those of the first `n` cycles. -/
structure Figures.BeginAs {σ : Type} (figures : Figures) (s : Session σ) (n : Nat) : Prop where
  counts : ∀ k count, (s.during Session.counts n)[k]? = some count → figures.counts k = count
  readings : ∀ k reading, (s.during Session.readings n)[k]? = some reading →
    figures.readings k = reading

namespace Session

variable {σ : Type} {s : Session σ} {figures : Figures}

/-- A cycle of the machine on the figures of a run is a cycle of the run. -/
theorem machine_cycle {n k : Nat} (h : figures.BeginAs s n) (hk : k < n) :
    Machine.cycle figures ⟨(s.after k).monitor.reconciler, (s.during trees k).length,
        (s.during samplings k).length⟩ =
      ((s.after k).reply.result, ⟨(s.after (k + 1)).monitor.reconciler,
        (s.during trees (k + 1)).length, (s.during samplings (k + 1)).length⟩) := by
  have htrees : ∀ i reply, ((s.after k).account.scheduled.toList ++
      (s.after k).account.forced.toList)[i]? = some reply →
      figures.counts ((s.during trees k).length + i) =
        reply.count (s.after k).monitor.watched := by
    intro i reply hreply
    rw [← trees_eq] at hreply
    refine h.counts _ _ ?_
    rw [during_counts, after_watched, List.getElem?_map, getElem?_during s trees hk hreply]
    rfl
  have hbatch : ∀ reply ∈ (s.after k).account.batch,
      figures.readings (s.during samplings k).length = reply.reading := by
    intro reply hreply
    refine h.readings _ _ ?_
    have hfirst : (s.after k).samplings[0]? = some reply := by
      rw [samplings, Option.mem_def.mp hreply]
      rfl
    have hsampling := getElem?_during s samplings hk hfirst
    rw [Nat.add_zero] at hsampling
    rw [during_readings, List.getElem?_map, hsampling]
    rfl
  have haccount : ((s.after k).monitor.account (s.after k).source (s.after k).world).1 =
      (s.after k).account := rfl
  have hasked : (s.during trees (k + 1)).length = (s.during trees k).length +
      ((s.after k).account.scheduled.toList ++ (s.after k).account.forced.toList).length := by
    rw [during_succ, List.length_append, trees_eq]
  have hsampled : (s.during samplings (k + 1)).length =
      (s.during samplings k).length + (s.after k).account.batch.toList.length := by
    rw [during_succ, List.length_append, samplings]
  rw [Machine.cycle_eq haccount htrees hbatch, reply_result, hasked, hsampled, after_succ,
    next_monitor, Monitor.reconciler_perform]

/-- The machine on the figures of a run is where the run is after every cycle, and has consumed
what the run has asked for. -/
theorem machine_after {n : Nat} (h : figures.BeginAs s n) {k : Nat} (hk : k ≤ n) :
    s.machine.after figures k = ⟨(s.after k).monitor.reconciler, (s.during trees k).length,
      (s.during samplings k).length⟩ := by
  induction k with
  | zero => rfl
  | succ k ih => rw [Machine.after, ih (Nat.le_of_succ_le hk), machine_cycle h hk]

/-- The machine ends each cycle as the session does. -/
theorem machine_result {n : Nat} (h : figures.BeginAs s n) {k : Nat} (hk : k < n) :
    s.machine.result figures k = (s.after k).reply.result := by
  rw [Machine.result, machine_after h (Nat.le_of_lt hk), machine_cycle h hk]

end Session

end PollAudit
