import PollAudit.Proofs.Run.Basic
import PollAudit.Proofs.Session.Trace

namespace PollAudit.Session

variable {σ τ ε : Type} {s : Session σ}

private theorem account_logged (log : List Exchange) : (s.logged log).account = s.account := by
  rw [account, logged, Monitor.account_logged]
  rfl

/-- The log takes no part in how a cycle ends. -/
theorem reply_result_logged (log : List Exchange) :
    (s.logged log).reply.result = s.reply.result := by
  rw [reply_result, reply_result, account_logged, next_logged]
  rfl

private theorem reply_result_after_logged (log : List Exchange) (n : Nat) :
    ((s.logged log).after n).reply.result = (s.after n).reply.result := by
  rw [after_logged, reply_result_logged]

private theorem reports_logged {log : List Exchange} {reports : List CycleReport} :
    (s.logged log).Reports reports ↔ s.Reports reports := by
  simp only [Reports, reply_result_after_logged]

/-- A run is its cycles, one after the other, up to the first that fails and the first whose report
is refused. With `taken` for the reports that the sink took, these are the reports of the first
cycles, and either the run has come to the last cycle that it was watched for, or the next cycle
fails and the run ends with that failure, or the sink refuses its report and the run ends with what
the sink gives. The sink is handed the taken reports and the refused one. The session behind the
run, with the log of the requests made, is that behind the cycles begun, of which there is none
behind a refused report. And the run has paused once for every report taken. -/
theorem run_eq_cycles [Ending ε] (s : Session σ) (sink : Sink τ ε) (interval cycles : Nat)
    (memory : τ) :
    let out := (s.logged []).run sink interval cycles { memory }
    ∃ taken between begun, s.Reports taken ∧ sink.Takes memory taken between ∧
      out.session = (s.after begun).logged (s.during exchanges begun) ∧
      out.outside.slept = taken.length * min interval Monitor.longestPause ∧
      ((taken.length = cycles ∧ begun = cycles ∧ out.ending = none ∧
          out.outside.handed = taken ∧ out.outside.memory = between) ∨
        (taken.length < cycles ∧ begun = taken.length + 1 ∧
          ∃ failure, (s.after taken.length).reply.result = .error failure ∧
            out.ending = some (Ending.ofFailure failure) ∧ out.outside.handed = taken ∧
            out.outside.memory = between) ∨
        (taken.length < cycles ∧ begun = taken.length + 1 ∧
          ∃ report ending memory', (s.after taken.length).reply.result = .ok report ∧
            sink report between = (.error ending, memory') ∧ out.ending = some ending ∧
            out.outside.handed = taken ++ [report] ∧ out.outside.memory = memory')) := by
  intro out
  obtain ⟨taken, between, ending, begun, handed, memory', hreports, htakes, hcourse, hrun⟩ :=
    exists_course (s.logged []) sink interval cycles { memory }
  rw [after_logged, List.nil_append, List.nil_append, Nat.zero_add] at hrun
  have hout : out = _ := hrun
  refine ⟨taken, between, begun, reports_logged.mp hreports, htakes, by rw [hout], by rw [hout], ?_⟩
  rw [hout]
  cases hcourse with
  | goesOn hlength => exact .inl ⟨hlength, rfl, rfl, rfl, rfl⟩
  | failed hlt hreply =>
    rw [reply_result_after_logged] at hreply
    exact .inr (.inl ⟨hlt, rfl, _, hreply, rfl, rfl, rfl⟩)
  | refused hlt hreply hsink =>
    rw [reply_result_after_logged] at hreply
    exact .inr (.inr ⟨hlt, rfl, _, _, _, hreply, hsink, rfl, rfl, rfl⟩)

/-- A sink that takes as many reports as it remembers. -/
def limited : Sink Nat Exit := fun _ left =>
  match left with
  | 0 => (.error .output, 0)
  | left + 1 => (.ok (), left)

/-- One network with one point, which the polling engine holds. -/
def steady : ScriptedSource where
  listings := .ok [⟨⟨"a"⟩, "A", "modbus", true⟩]
  trees := [.ok [⟨⟨"a"⟩, "A", "modbus", true, [⟨true, [⟨true⟩]⟩]⟩]]
  stats := [("A", [⟨.ok { enabled := true, queue := 1 }, 0⟩])]

/-- The session that starts on such a network. -/
def ofSteady : Session ScriptedSource where
  source := ScriptedSource.source
  monitor := ⟨"modbus", ⟨[⟨⟨"a"⟩, "A"⟩]⟩, ⟨.standard, {}⟩⟩
  world := { steady with listingCalls := 1 }

/-- A pause ends after thirty years even if the interval is a millisecond longer: with one report
taken, the time slept is less than the interval. -/
theorem slept_of_steady :
    start ScriptedSource.source "modbus" .standard steady = .ok ofSteady ∧
      (ofSteady.run limited 946080000001 2 { memory := 1 }).ending = some .output ∧
      (ofSteady.run limited 946080000001 2 { memory := 1 }).outside.handed.length = 2 ∧
      (ofSteady.run limited 946080000001 2 { memory := 1 }).outside.slept = 946080000000 ∧
      (ofSteady.run limited 946080000001 2 { memory := 1 }).outside.slept ≠ 1 * 946080000001 := by
  have hslept : (ofSteady.run limited 946080000001 2 { memory := 1 }).outside.slept =
      946080000000 := by decide +kernel
  refine ⟨rfl, by decide +kernel, by decide +kernel, hslept, ?_⟩
  rw [hslept]
  decide

end PollAudit.Session
