import PollAudit.Proofs.Report.Writer
import PollAudit.Proofs.Run.Ending

namespace PollAudit

namespace Writer

/-- Reports go to a writer. -/
def sink (colour : Bool) : Sink Writer Exit := fun report w => w.report colour report

variable {colour : Bool} {w w' : Writer} {reports : List CycleReport} {report : CycleReport}

private theorem accepts_of_sink (h : sink colour report w = (.ok (), w')) :
    w.Accepts [report.block colour] := by
  by_contra hnot
  obtain ⟨_, hrefused, _⟩ := report_of_not_accepts hnot
  have hsame := congrArg Prod.fst h
  rw [sink, hrefused] at hsame
  cases hsame

private theorem not_accepts_of_sink {ending : Exit}
    (h : sink colour report w = (.error ending, w')) :
    ¬ w.Accepts [report.block colour] := by
  intro haccepts
  rw [sink, report_of_accepts haccepts] at h
  cases h

/-- The reports that a writer takes one after the other are those whose blocks it accepts as a
whole. -/
theorem takes_sink_iff : (sink colour).Takes w reports w' ↔
    w.Accepts (reports.map (·.block colour)) ∧ w' = w.past (reports.map (·.block colour)) := by
  induction reports generalizing w with
  | nil => simp [Sink.Takes, accepts_nil]
  | cons report later ih =>
    rw [List.map_cons, past_cons, accepts_cons_iff, Sink.Takes]
    simp only [ih]
    constructor
    · rintro ⟨next, htaken, hlater, rfl⟩
      have haccepts := accepts_of_sink htaken
      rw [sink, report_of_accepts haccepts] at htaken
      cases htaken
      exact ⟨⟨haccepts, hlater⟩, rfl⟩
    · rintro ⟨⟨haccepts, hlater⟩, rfl⟩
      exact ⟨w.past [report.block colour], report_of_accepts haccepts, hlater, rfl⟩

end Writer

private theorem Exit.ofFailure_ne_output (failure : Failure) :
    Exit.ofFailure failure ≠ .output := by
  cases failure <;> simp [Exit.ofFailure]

namespace Session

variable {σ : Type}

/-- What a run leaves on a writer. The text of a report is what it renders to and two line ends.
With `taken` for the reports whose texts the writer accepted, these are the reports of the first
cycles, and their texts are written whole and in order. Nothing follows while the run goes on or
when a request failed, which is never an output error. Otherwise the run ended with an output error,
and a part of the text of the next report follows. This happens exactly if the writer breaks within
that text or the flush behind it fails. -/
theorem written_of_run (s : Session σ) (colour : Bool) (w : Writer) (interval cycles : Nat) :
    let out := s.run (Writer.sink colour) interval cycles { memory := w }
    let text (report : CycleReport) : String := report.render colour ++ "\n\n"
    ∃ taken, s.Reports taken ∧ w.Accepts (taken.map text) ∧
      ((taken.length = cycles ∧ out.ending = none ∧
          out.outside.memory.written = w.written ++ String.join (taken.map text)) ∨
        (taken.length < cycles ∧
          (∃ failure, (s.after taken.length).reply.result = .error failure ∧
            out.ending = some (Exit.ofFailure failure) ∧ out.ending ≠ some .output) ∧
          out.outside.memory.written = w.written ++ String.join (taken.map text)) ∨
        (taken.length < cycles ∧ out.ending = some .output ∧
          ∃ report part, (s.after taken.length).reply.result = .ok report ∧
            out.outside.memory.written = w.written ++ String.join (taken.map text) ++ part ∧
            w.Leaves (taken.map text) (text report) part)) ∧
      (out.ending = some .output ↔
        taken.length < cycles ∧ ∃ report, (s.after taken.length).reply.result = .ok report ∧
          (¬ w.HasRoom (String.join (taken.map text) ++ text report) ∨
            w.flushes = some taken.length)) := by
  intro out text
  obtain ⟨taken, between, ending, begun, handed, w', hreports, htakes, hcourse, hrun⟩ :=
    exists_course s (Writer.sink colour) interval cycles { memory := w }
  obtain ⟨haccepts, rfl⟩ := Writer.takes_sink_iff.mp htakes
  have hout : out = _ := hrun
  refine ⟨taken, hreports, haccepts, ?_⟩
  rw [hout]
  cases hcourse with
  | goesOn hlength =>
    refine ⟨.inl ⟨hlength, rfl, rfl⟩, iff_of_false nofun ?_⟩
    rintro ⟨hlt, _⟩
    omega
  | @failed failure hlt hreply =>
    have hother : some (Exit.ofFailure failure) ≠ some .output := by
      rw [ne_eq, Option.some.injEq]
      exact Exit.ofFailure_ne_output failure
    refine ⟨.inr (.inl ⟨hlt, ⟨failure, hreply, rfl, hother⟩, rfl⟩), iff_of_false hother ?_⟩
    rintro ⟨_, report, hok, _⟩
    rw [hreply] at hok
    cases hok
  | @refused report _ _ hlt hreply hsink =>
    have hnot := Writer.not_accepts_of_sink hsink
    rw [haccepts.past_iff] at hnot
    obtain ⟨part, hrefused, hwritten, hleaves⟩ := haccepts.exists_leaves hnot
    have hreason := haccepts.not_append_singleton_iff.mp hnot
    rw [String.join_append, String.join_cons, String.join_nil, String.append_empty,
      List.length_map] at hreason
    rw [Writer.sink] at hsink
    rw [hsink] at hrefused hwritten
    cases hrefused
    exact ⟨.inr (.inr ⟨hlt, rfl, report, part, hreply, hwritten, hleaves⟩),
      iff_of_true rfl ⟨hlt, report, hreply, hreason⟩⟩

/-- What a cycle on the steady network prints. -/
def steadyText : String :=
  "Lockouts: false\nexpec points: 1\ntotal points: 1\n    out:   0\n    poll:  1\n    stdby: 0\n\n"

/-- A writer that breaks behind a hundred bytes. -/
def narrow : Writer := { room := some 100 }

/-- The text of the first report has 88 bytes, so that of the second breaks off behind twelve. -/
theorem written_of_narrow :
    let out := ofSteady.run (Writer.sink false) 5000 3 { memory := narrow }
    let text (report : CycleReport) : String := report.render false ++ "\n\n"
    out.ending = some .output ∧ out.outside.memory.written = steadyText ++ "Lockouts: fa" ∧
      ∃ first second, ofSteady.Reports [first] ∧ text first = steadyText ∧
        (ofSteady.after 1).reply.result = .ok second ∧ text second = steadyText ∧
        narrow.Leaves [text first] (text second) "Lockouts: fa" := by
  intro out text
  have hending : out.ending = some .output := by decide +kernel
  have hwritten : out.outside.memory.written = steadyText ++ "Lockouts: fa" := by decide +kernel
  have htext : ∀ n < 2, ∀ report, (ofSteady.after n).reply.result = .ok report →
      text report = steadyText := by
    have hmap : ∀ n < 2, (ofSteady.after n).reply.result.map text = .ok steadyText := by
      decide +kernel
    intro n hlt report hreply
    have hmapped := hmap n hlt
    rw [hreply] at hmapped
    exact Except.ok.inj hmapped
  obtain ⟨taken, hreports, haccepts, hcases, -⟩ := written_of_run ofSteady false narrow 5000 3
  obtain ⟨-, hnone, -⟩ | ⟨-, ⟨_, -, -, hother⟩, -⟩ | ⟨-, -, report, part, hreply, hpart, hleaves⟩ :=
    hcases
  · cases hending.symm.trans hnone
  · exact absurd hending hother
  · have hempty : narrow.written = "" := rfl
    rw [hwritten, hempty, String.empty_append] at hpart
    replace hleaves : narrow.Leaves (taken.map text) (text report) part := hleaves
    replace haccepts : narrow.Accepts (taken.map text) := haccepts
    rcases taken with _ | ⟨first, _ | ⟨second, later⟩⟩
    · -- There is room for the first text.
      have hroom : narrow.HasRoom (String.join [text report]) := by
        rintro _ ⟨⟩
        rw [htext 0 (by decide) report hreply]
        decide
      exact absurd (hleaves.flush hroom).symm (Option.some_ne_none _)
    · have hfirst := htext 0 (by decide) first (reports_cons.mp hreports).1
      replace hpart : steadyText ++ "Lockouts: fa" = String.join [text first] ++ part := hpart
      rw [hfirst, String.join_cons, String.join_nil, String.append_empty,
        String.append_right_inj] at hpart
      subst hpart
      exact ⟨hending, hwritten, first, report, hreports, hfirst, hreply, htext 1 (by decide) _ hreply,
        hleaves⟩
    · -- There is no room for two texts.
      obtain ⟨hfirst, hlater⟩ := reports_cons.mp hreports
      have hboth := (@Writer.Accepts.of_append narrow [text first, text second] (later.map text)
        haccepts).room 100 rfl
      rw [htext 0 (by decide) first hfirst,
        htext 1 (by decide) second (reports_cons.mp hlater).1] at hboth
      exact absurd hboth (by decide +kernel)

end Session

end PollAudit
