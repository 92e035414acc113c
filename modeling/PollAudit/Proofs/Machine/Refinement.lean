import PollAudit.Audit.Script
import PollAudit.Proofs.Machine.Essence
import PollAudit.Proofs.Machine.Run

namespace PollAudit

/-- The two lists have the same entry wherever both have one. -/
def Agree {α : Type} (xs ys : List α) : Prop :=
  ∀ (k : Nat) (a b : α), xs[k]? = some a → ys[k]? = some b → a = b

namespace Agree

variable {α β γ δ : Type} {xs ys : List α}

private theorem of_eq (h : xs = ys) : Agree xs ys := by
  intro k a b ha hb
  rw [h, hb, Option.some.injEq] at ha
  exact ha.symm

/-- What is determined by agreeing entries agrees. -/
theorem map_of {xs : List α} {ys : List β} {f : α → γ} {g : β → γ} {f' : α → δ} {g' : β → δ}
    (h : Agree (xs.map f) (ys.map g)) (hdetermined : ∀ a b, f a = g b → f' a = g' b) :
    Agree (xs.map f') (ys.map g') := by
  intro k c d hc hd
  rw [List.getElem?_map] at hc hd
  obtain ⟨a, ha, rfl⟩ := Option.map_eq_some_iff.mp hc
  obtain ⟨b, hb, rfl⟩ := Option.map_eq_some_iff.mp hd
  refine hdetermined a b (h k _ _ ?_ ?_)
  · rw [List.getElem?_map, ha, Option.map_some]
  · rw [List.getElem?_map, hb, Option.map_some]

/-- Agreeing lists are the beginning of one sequence. -/
theorem exists_sequence (h : Agree xs ys) (fallback : α) :
    ∃ sequence : Nat → α, (∀ k a, xs[k]? = some a → sequence k = a) ∧
      ∀ k b, ys[k]? = some b → sequence k = b := by
  refine ⟨fun k => (xs[k]?.or ys[k]?).getD fallback, ?_, ?_⟩
  · intro k a ha
    simp [ha]
  · intro k b hb
    cases hx : xs[k]? with
    | none => simp [hx, hb]
    | some a => simpa [hx] using h k a b hx hb

end Agree

namespace Session

/-- Both sessions go the same way for `n` cycles: they report the same or fail of the same, their
reconcilers are in the same state, and they ask for the tree equally often. -/
structure SameCourse {σ τ : Type} (s : Session σ) (t : Session τ) (n : Nat) : Prop where
  results : ∀ k < n, (s.after k).reply.result = (t.after k).reply.result
  reconcilers : ∀ k ≤ n, (s.after k).monitor.reconciler = (t.after k).monitor.reconciler
  trees : ∀ k < n, (s.after k).trees.length = (t.after k).trees.length

variable {σ τ : Type} {s : Session σ} {t : Session τ} {n : Nat}

/-- Two runs on the same figures are the run of one machine. -/
theorem sameCourse_of_beginAs (hreconciler : s.monitor.reconciler = t.monitor.reconciler)
    {figures : Figures} (hs : figures.BeginAs s n) (ht : figures.BeginAs t n) :
    s.SameCourse t n := by
  have hmachine : s.machine = t.machine := by
    rw [machine, machine, hreconciler]
  have hafter (k : Nat) (hk : k ≤ n) :
      (⟨(s.after k).monitor.reconciler, (s.during Session.trees k).length,
        (s.during samplings k).length⟩ : Machine) =
      ⟨(t.after k).monitor.reconciler, (t.during Session.trees k).length,
        (t.during samplings k).length⟩ := by
    rw [← machine_after hs hk, ← machine_after ht hk, hmachine]
  refine ⟨?_, ?_, ?_⟩
  · intro k hk
    rw [← machine_result hs hk, hmachine, machine_result ht hk]
  · intro k hk
    exact congrArg Machine.reconciler (hafter k hk)
  · intro k hk
    have hbefore := congrArg Machine.trees (hafter k (Nat.le_of_lt hk))
    have hbehind := congrArg Machine.trees (hafter (k + 1) hk)
    simp only [during_succ, List.length_append] at hbefore hbehind
    omega

private theorem sameCourse_of_agree (hreconciler : s.monitor.reconciler = t.monitor.reconciler)
    (hcounts : Agree (s.during counts n) (t.during counts n))
    (hreadings : Agree (s.during readings n) (t.during readings n)) : s.SameCourse t n := by
  obtain ⟨countOf, hs, ht⟩ := hcounts.exists_sequence (.ok 0)
  obtain ⟨readingOf, hs', ht'⟩ := hreadings.exists_sequence (.ok (.ofSamples []))
  have hbegin : Figures.BeginAs ⟨countOf, readingOf⟩ s n := ⟨hs, hs'⟩
  exact sameCourse_of_beginAs hreconciler hbegin ⟨ht, ht'⟩

/-- The monitor is a machine on numbers. Of each tree it needs the expected count and of each
sampling the reading, or what they failed of: on any figures that begin with those of a run the
machine goes through the same results and reconcilers and asks for the tree in the same places.
So two sessions whose figures agree go the same way, and in particular two sessions whose trees
and counters agree in essence. Cycles that failed are cycles of the run like the others. -/
theorem monitor_refines_machine (s : Session σ) (n : Nat) :
    (∃ figures : Figures, figures.BeginAs s n) ∧
    (∀ figures : Figures, figures.BeginAs s n →
      (∀ k < n, s.machine.result figures k = (s.after k).reply.result) ∧
      ∀ k ≤ n, s.machine.after figures k = ⟨(s.after k).monitor.reconciler,
        (s.during trees k).length, (s.during samplings k).length⟩) ∧
    ∀ {τ : Type} (t : Session τ), s.monitor.reconciler = t.monitor.reconciler →
      (Agree (s.during counts n) (t.during counts n) →
        Agree (s.during readings n) (t.during readings n) → s.SameCourse t n) ∧
      ((∀ id, s.monitor.watched.contains id = t.monitor.watched.contains id) →
        Agree ((s.during trees n).map fun reply => reply.result.map s.monitor.watched.essence)
          ((t.during trees n).map fun reply => reply.result.map t.monitor.watched.essence) →
        Agree ((s.during samplings n).map fun reply =>
            reply.result.map (List.map LiveStats.essence))
          ((t.during samplings n).map fun reply =>
            reply.result.map (List.map LiveStats.essence)) →
        s.SameCourse t n) := by
  refine ⟨?_, ?_, ?_⟩
  · obtain ⟨countOf, hcounts, _⟩ :=
      (Agree.of_eq (rfl : s.during counts n = s.during counts n)).exists_sequence (.ok 0)
    obtain ⟨readingOf, hreadings, _⟩ :=
      (Agree.of_eq (rfl : s.during readings n = s.during readings n)).exists_sequence
        (.ok (.ofSamples []))
    exact ⟨⟨countOf, readingOf⟩, hcounts, hreadings⟩
  · intro figures h
    exact ⟨fun k hk => machine_result h hk, fun k hk => machine_after h hk⟩
  · intro τ t hreconciler
    refine ⟨sameCourse_of_agree hreconciler, ?_⟩
    intro hwatched htrees hsamplings
    refine sameCourse_of_agree hreconciler ?_ ?_
    · rw [during_counts, during_counts]
      exact htrees.map_of fun a b => Reply.count_eq_of_essence hwatched
    · rw [during_readings, during_readings]
      exact hsamplings.map_of fun a b => Reply.reading_eq_of_essence

/-- A point is added to a watched network while a request for the tree fails. -/
def bare : ScriptedSource where
  listings := .ok [⟨⟨"a"⟩, "A", "modbus", true⟩, ⟨⟨"b"⟩, "B", "modbus", false⟩]
  trees :=
    [.ok [⟨⟨"a"⟩, "A", "modbus", true, [⟨true, [⟨true⟩]⟩]⟩],
     .error (.timeout "tree"),
     .ok [⟨⟨"a"⟩, "A", "modbus", true, [⟨true, [⟨true⟩, ⟨true⟩]⟩]⟩]]
  stats :=
    [("A", [⟨.ok { enabled := true, queue := 1 }, 0⟩, ⟨.ok { enabled := true, standby := 2 }, 0⟩]),
     ("B", [⟨.ok {}, 0⟩])]

/-- The same with other names, with a network that is not watched and with counters that are not
read. -/
def dressed : ScriptedSource where
  listings := .ok [⟨⟨"x"⟩, "X", "bacnet", true⟩, ⟨⟨"a"⟩, "Hall", "modbus", true⟩,
    ⟨⟨"b"⟩, "Roof", "modbus", false⟩]
  trees :=
    [.ok [⟨⟨"a"⟩, "Hall", "modbus", true, [⟨true, [⟨true⟩]⟩]⟩,
      ⟨⟨"x"⟩, "X", "bacnet", true, [⟨true, [⟨true⟩]⟩]⟩],
     .error (.timeout "tree"),
     .ok [⟨⟨"x"⟩, "X", "bacnet", false, []⟩,
      ⟨⟨"a"⟩, "Floor", "other", true, [⟨true, [⟨true⟩, ⟨true⟩]⟩]⟩]]
  stats :=
    [("Hall", [⟨.ok { network := "Hall", enabled := true, queue := 1, polls := 7 }, 0⟩,
      ⟨.ok { enabled := true, standby := 2, byPriority := { low := 2 }, busyTime := some "1s" }, 0⟩]),
     ("Roof", [⟨.ok { queue := 5, lockups := { asap := true } }, 0⟩])]

/-- The session that starts on the first. -/
def ofBare : Session ScriptedSource where
  source := ScriptedSource.source
  monitor := ⟨"modbus", ⟨[⟨⟨"a"⟩, "A"⟩, ⟨⟨"b"⟩, "B"⟩]⟩, ⟨.standard, {}⟩⟩
  world := { bare with listingCalls := 1 }

/-- The session that starts on the second. -/
def ofDressed : Session ScriptedSource where
  source := ScriptedSource.source
  monitor := ⟨"modbus", ⟨[⟨⟨"a"⟩, "Hall"⟩, ⟨⟨"b"⟩, "Roof"⟩]⟩, ⟨.standard, {}⟩⟩
  world := { dressed with listingCalls := 1 }

/-- They go the same way, through a failed cycle and a changed count. -/
theorem sameCourse_of_dressed :
    start ScriptedSource.source "modbus" .standard bare = .ok ofBare ∧
      start ScriptedSource.source "modbus" .standard dressed = .ok ofDressed ∧
      (ofBare.after 1).reply.result = .error (.timeout "tree") ∧
      ofBare.SameCourse ofDressed 3 := by
  have hwatched : ∀ id, ofBare.monitor.watched.contains id = ofDressed.monitor.watched.contains id :=
    fun _ => rfl
  have htrees : ((ofBare.during trees 3).map fun reply =>
        reply.result.map ofBare.monitor.watched.essence) =
      (ofDressed.during trees 3).map fun reply =>
        reply.result.map ofDressed.monitor.watched.essence := by
    decide +kernel
  have hsamplings : ((ofBare.during samplings 3).map fun reply =>
        reply.result.map (List.map LiveStats.essence)) =
      (ofDressed.during samplings 3).map fun reply =>
        reply.result.map (List.map LiveStats.essence) := by
    decide +kernel
  have hfailed : (ofBare.after 1).reply.result = .error (.timeout "tree") := by decide +kernel
  obtain ⟨_, hsame⟩ := (monitor_refines_machine ofBare 3).2.2 ofDressed rfl
  exact ⟨rfl, rfl, hfailed, hsame hwatched (Agree.of_eq htrees) (Agree.of_eq hsamplings)⟩

end Session

end PollAudit
