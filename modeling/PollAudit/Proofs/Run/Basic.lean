import PollAudit.Audit.Run
import PollAudit.Proofs.Cycle.Lift
import PollAudit.Proofs.Session.Basic

namespace PollAudit

/-- A place that takes reports or refuses them. Between two reports it has a memory `τ`, so that a
sink stands for every way in which one can behave. -/
abbrev Sink (τ ε : Type) := CycleReport → StateM τ (Except ε Unit)

/-- What a run does besides its cycles: to the memory of its sink, with the reports that it hands
over, and to the clock, in milliseconds. -/
structure Outside (τ : Type) where
  memory : τ
  handed : List CycleReport := []
  slept : Nat := 0

namespace Sink

variable {τ ε : Type}

/-- The surroundings of a run that hands its reports to a sink. -/
def host {σ : Type} (sink : Sink τ ε) : Host (StateT (Outside τ) (StateM σ)) ε where
  report := fun report => modifyGet fun outside =>
    let (answer, memory) := sink report outside.memory
    (answer, { outside with memory, handed := outside.handed ++ [report] })
  tell := fun _ => pure ()
  pause := fun milliseconds => modify fun outside =>
    { outside with slept := outside.slept + milliseconds }

/-- The sink takes some reports, one after the other, which changes its memory. -/
def Takes (sink : Sink τ ε) : τ → List CycleReport → τ → Prop
  | memory, [], memory' => memory' = memory
  | memory, report :: later, memory' =>
    ∃ next, sink report memory = (.ok (), next) ∧ sink.Takes next later memory'

variable {σ : Type} (sink : Sink τ ε) (outside : Outside τ) (world : σ)

/-- A report changes the memory of the sink and is noted as handed over. -/
theorem host_report (report : CycleReport) : sink.host.report report outside world =
    (((sink report outside.memory).1,
      { outside with
        memory := (sink report outside.memory).2
        handed := outside.handed ++ [report] }), world) := rfl

/-- Events go nowhere. -/
theorem host_tell (events : List Event) :
    sink.host.tell events outside world = (((), outside), world) := rfl

private theorem host_pause (milliseconds : Nat) : sink.host.pause milliseconds outside world =
    (((), { outside with slept := outside.slept + milliseconds }), world) := rfl

end Sink

namespace Session

variable {σ τ ε : Type}

/-- How a run ends, with the session and the outside behind it. -/
structure Outcome (σ τ ε : Type) where
  ending : Option ε
  session : Session σ
  outside : Outside τ

/-- Runs at most `cycles` cycles that hand their reports to a sink. -/
def run [Ending ε] (s : Session σ) (sink : Sink τ ε) (interval cycles : Nat) (outside : Outside τ) :
    Outcome σ τ ε :=
  let out := s.monitor.run s.source.lift sink.host interval cycles outside s.world
  ⟨out.1.1.1, { s with monitor := out.1.1.2, world := out.2 }, out.1.2⟩

/-- The first cycles of a session report this, in order. -/
def Reports (s : Session σ) (reports : List CycleReport) : Prop :=
  reports.map .ok = (List.range reports.length).map fun k => (s.after k).reply.result

variable [Ending ε] {s : Session σ} {sink : Sink τ ε} {interval cycles : Nat}
  {outside : Outside τ} {report : CycleReport}

/-- A run of no cycles has not ended. -/
theorem run_zero : s.run sink interval 0 outside = ⟨none, s, outside⟩ := rfl

private theorem bind_apply {ρ α β : Type} (first : StateT ρ (StateM σ) α)
    (next : α → StateT ρ (StateM σ) β) (outside : ρ) (world : σ) :
    (first >>= next) outside world =
      next (first outside world).1.1 (first outside world).1.2 (first outside world).2 := rfl

/-- The next cycle of a session as a run makes it. -/
theorem cycle_lift_apply (outside : Outside τ) : s.monitor.cycle
      (s.source.lift : Source (StateT (Outside τ) (StateM σ))) outside s.world =
    (((s.reply, s.next.monitor), outside), s.next.world) := by
  rw [Monitor.cycle_lift]
  rfl

/-- A cycle that fails ends the run. -/
theorem run_of_failed {failure : Failure} (h : s.reply.result = .error failure) :
    s.run sink interval (cycles + 1) outside = ⟨some (Ending.ofFailure failure), s.next, outside⟩ := by
  have hrun : s.monitor.run s.source.lift sink.host interval (cycles + 1) outside s.world =
      (((some (Ending.ofFailure failure), s.next.monitor), outside), s.next.world) := by
    rw [Monitor.run, bind_apply, cycle_lift_apply]
    simp only [bind_apply, h]
    rfl
  rw [run, hrun]
  rfl

/-- A report that is refused ends the run. -/
theorem run_of_refused {ending : ε} {memory : τ} (h : s.reply.result = .ok report)
    (hsink : sink report outside.memory = (.error ending, memory)) :
    s.run sink interval (cycles + 1) outside = ⟨some ending, s.next,
      { outside with memory, handed := outside.handed ++ [report] }⟩ := by
  have hrun : s.monitor.run s.source.lift sink.host interval (cycles + 1) outside s.world =
      (((some ending, s.next.monitor),
        { outside with memory, handed := outside.handed ++ [report] }), s.next.world) := by
    rw [Monitor.run, bind_apply, cycle_lift_apply]
    simp only [bind_apply, h, Sink.host_tell, Sink.host_report, hsink]
    rfl
  rw [run, hrun]
  rfl

/-- Behind a report that is taken the run pauses and goes on. -/
theorem run_of_taken {memory : τ} (h : s.reply.result = .ok report)
    (hsink : sink report outside.memory = (.ok (), memory)) :
    s.run sink interval (cycles + 1) outside = s.next.run sink interval cycles
      ⟨memory, outside.handed ++ [report], outside.slept + min interval Monitor.longestPause⟩ := by
  have hrun : s.monitor.run s.source.lift sink.host interval (cycles + 1) outside s.world =
      s.next.monitor.run s.next.source.lift sink.host interval cycles
        ⟨memory, outside.handed ++ [report], outside.slept + min interval Monitor.longestPause⟩
        s.next.world := by
    rw [Monitor.run, bind_apply, cycle_lift_apply]
    simp only [bind_apply, h, Sink.host_tell, Sink.host_report, hsink]
    by_cases hpause : interval = 0
    · rw [if_neg (not_not_intro hpause), hpause, Nat.zero_min, Nat.add_zero]
      rfl
    · rw [if_pos hpause, bind_apply, Sink.host_pause]
      rfl
  rw [run, hrun]
  rfl

section Reports

variable {reports : List CycleReport}

private theorem next_after (n : Nat) : s.next.after n = s.after (n + 1) := by
  induction n with
  | zero => rfl
  | succ n ih => rw [after_succ, ih, after_succ s (n + 1)]

private theorem reports_nil : s.Reports [] := rfl

/-- The first report is that of the next cycle. -/
theorem reports_cons : s.Reports (report :: reports) ↔
    s.reply.result = .ok report ∧ s.next.Reports reports := by
  simp only [Reports, List.map_cons, List.length_cons, List.range_succ_eq_map, List.map_map,
    List.cons.injEq, after_zero, next_after, Function.comp_def]
  exact and_congr_left' eq_comm

end Reports

/-- How a run of at most `cycles` cycles ends whose sink took `taken` and remembers `memory` behind
these reports. With it go the number of cycles that were begun, the reports that the sink was
handed, and what it remembers at the end. -/
inductive Course (s : Session σ) (sink : Sink τ ε) (cycles : Nat) (taken : List CycleReport)
    (memory : τ) : Option ε → Nat → List CycleReport → τ → Prop
  /-- There is nothing that ends it. -/
  | goesOn : taken.length = cycles → Course s sink cycles taken memory none cycles taken memory
  /-- The next cycle fails. -/
  | failed {failure : Failure} : taken.length < cycles →
    (s.after taken.length).reply.result = .error failure →
    Course s sink cycles taken memory (some (Ending.ofFailure failure)) (taken.length + 1) taken
      memory
  /-- The report of the next cycle is refused. -/
  | refused {report : CycleReport} {ending : ε} {memory' : τ} : taken.length < cycles →
    (s.after taken.length).reply.result = .ok report →
    sink report memory = (.error ending, memory') →
    Course s sink cycles taken memory (some ending) (taken.length + 1) (taken ++ [report]) memory'

/-- With one more cycle in front, whose report was taken, the run ends as it did. -/
theorem Course.cons {taken handed : List CycleReport} {memory memory' : τ} {ending : Option ε}
    {begun : Nat} (h : Course s.next sink cycles taken memory ending begun handed memory')
    (report : CycleReport) :
    Course s sink (cycles + 1) (report :: taken) memory ending (begun + 1) (report :: handed)
      memory' := by
  cases h with
  | goesOn hlength => exact .goesOn (congrArg (· + 1) hlength)
  | failed hlt hreply =>
    rw [next_after] at hreply
    exact .failed (Nat.succ_lt_succ hlt) hreply
  | refused hlt hreply hsink =>
    rw [next_after] at hreply
    exact .refused (Nat.succ_lt_succ hlt) hreply hsink

/-- Every run has a course: the sink takes the reports of some first cycles, and then the run ends
or has come to the last of its cycles. -/
theorem exists_course (s : Session σ) (sink : Sink τ ε) (interval cycles : Nat)
    (outside : Outside τ) :
    ∃ taken memory ending begun handed memory', s.Reports taken ∧
      sink.Takes outside.memory taken memory ∧
      Course s sink cycles taken memory ending begun handed memory' ∧
      s.run sink interval cycles outside = ⟨ending, s.after begun,
        ⟨memory', outside.handed ++ handed,
          outside.slept + taken.length * min interval Monitor.longestPause⟩⟩ := by
  -- The first cycle decides: it ends the run, or its report is one more in front of those taken later.
  induction cycles generalizing s outside with
  | zero =>
    refine ⟨[], outside.memory, none, 0, [], outside.memory, reports_nil, rfl, .goesOn rfl, ?_⟩
    simp [run_zero]
  | succ cycles ih =>
    cases hreply : s.reply.result with
    | error failure =>
      refine ⟨[], outside.memory, _, _, [], outside.memory, reports_nil, rfl,
        .failed (Nat.succ_pos _) hreply, ?_⟩
      simp [run_of_failed hreply]
    | ok report =>
      rcases hsink : sink report outside.memory with ⟨ending | _, memory⟩
      · refine ⟨[], outside.memory, _, _, [report], memory, reports_nil, rfl,
          .refused (Nat.succ_pos _) hreply hsink, ?_⟩
        simp [run_of_refused hreply hsink]
      · obtain ⟨taken, between, ending, begun, handed, memory', hreports, htakes, hcourse, hrun⟩ :=
          ih s.next ⟨memory, outside.handed ++ [report],
            outside.slept + min interval Monitor.longestPause⟩
        refine ⟨report :: taken, between, ending, begun + 1, report :: handed, memory',
          reports_cons.mpr ⟨hreply, hreports⟩, ⟨memory, hsink, htakes⟩, ?_, ?_⟩
        · exact hcourse.cons report
        · rw [run_of_taken hreply hsink, hrun, next_after]
          simp [Nat.succ_mul]
          omega

end Session

end PollAudit
