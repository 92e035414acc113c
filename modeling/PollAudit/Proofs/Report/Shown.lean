import PollAudit.Proofs.Report.Writer

namespace PollAudit

/-- What the text of a report tells. The cycle and the phase are not among it. -/
structure Shown where
  lockouts : Bool
  expected : Count
  total : Count
  inFlight : Count
  queue : Count
  standby : Count
  incorrect : Option Count
deriving DecidableEq, Repr

namespace CycleReport

def shown (report : CycleReport) : Shown where
  lockouts := report.lockouts
  expected := report.expected
  total := report.total
  inFlight := report.inFlight
  queue := report.queue
  standby := report.standby
  incorrect := report.incorrect

/-- A count can be told from its digits. -/
theorem toString_count_inj {a b : Count} : toString a.toNat = toString b.toNat ↔ a = b := by
  rw [Text.toString_nat_inj, UInt64.toNat_inj]

/-- The line that appears only once a mismatch has lasted. -/
def lastLine : Option Count → List String
  | none => []
  | some count => ["INCORRECT COUNT: " ++ toString count.toNat]

private theorem page_eq (report : CycleReport) : report.page false =
    ["Lockouts: " ++ toString report.lockouts,
      "expec points: " ++ toString report.expected.toNat,
      "total points: " ++ toString report.total.toNat,
      "    out:   " ++ toString report.inFlight.toNat,
      "    poll:  " ++ toString report.queue.toNat,
      "    stdby: " ++ toString report.standby.toNat] ++ lastLine report.incorrect ++ [""] := by
  rw [page, lines]
  cases report.incorrect <;> rfl

/-- The empty line behind a report tells whether it has a last line. -/
theorem lastLine_append_inj {incorrect incorrect' : Option Count} {rest rest' : List String} :
    lastLine incorrect ++ "" :: rest = lastLine incorrect' ++ "" :: rest' ↔
      incorrect = incorrect' ∧ rest = rest' := by
  have hne (count : Count) : "INCORRECT COUNT: " ++ toString count.toNat ≠ "" := by
    intro h
    have hlength := congrArg String.length h
    rw [String.length_append] at hlength
    have hlabel : "INCORRECT COUNT: ".length = 17 := rfl
    have hempty : "".length = 0 := rfl
    omega
  cases incorrect with
  | none =>
    cases incorrect' with
    | none => simp only [lastLine, List.nil_append, List.cons.injEq, true_and]
    | some count' => simp only [lastLine, List.nil_append, List.cons_append, List.cons.injEq,
        (hne count').symm, false_and, reduceCtorEq]
  | some count =>
    cases incorrect' with
    | none => simp only [lastLine, List.nil_append, List.cons_append, List.cons.injEq, hne count,
        false_and, reduceCtorEq]
    | some count' => simp only [lastLine, List.nil_append, List.cons_append, List.cons.injEq,
        String.append_right_inj, toString_count_inj, true_and, Option.some.injEq]

/-- Whatever follows a report, the report and what follows it can be told apart. -/
theorem page_append_inj {report report' : CycleReport} {rest rest' : List String} :
    report.page false ++ rest = report'.page false ++ rest' ↔
      report.shown = report'.shown ∧ rest = rest' := by
  simp only [page_eq, List.cons_append, List.append_assoc, List.nil_append, List.cons.injEq,
    String.append_right_inj, Text.toString_bool_inj, toString_count_inj, lastLine_append_inj,
    shown, Shown.mk.injEq, and_assoc]

private theorem page_ne_nil (report : CycleReport) : report.page false ≠ [] := by
  simp [page]

private theorem flatMap_page_inj {first second : List CycleReport} :
    first.flatMap (·.page false) = second.flatMap (·.page false) ↔
      first.map shown = second.map shown := by
  induction first generalizing second with
  | nil =>
    cases second with
    | nil => simp
    | cons report' later' => simp [page_ne_nil]
  | cons report later ih =>
    cases second with
    | nil => simp [page_ne_nil]
    | cons report' later' =>
      rw [List.flatMap_cons, List.flatMap_cons, page_append_inj, ih, List.map_cons, List.map_cons,
        List.cons.injEq]

/-- The lines of the output can be told from the output, since no line goes on behind its end. -/
theorem stream_inj_pages {first second : List CycleReport} (colour : Bool) :
    stream colour first = stream colour second ↔
      first.flatMap (·.page colour) = second.flatMap (·.page colour) := by
  have hlines (reports : List CycleReport) :
      ∀ line ∈ reports.flatMap (·.page colour) ++ [""], Text.IsLine line := by
    intro line hline
    rw [List.mem_append, List.mem_flatMap, List.mem_singleton] at hline
    obtain ⟨report, _, hline⟩ | rfl := hline
    · exact isLine_of_mem_page hline
    · decide
  rw [stream_eq_intercalate, stream_eq_intercalate,
    Text.intercalate_inj (hlines first) (hlines second) (by simp) (by simp),
    List.append_left_inj]

end CycleReport

/-- The writer behind some reports, each written in its turn. -/
def Writer.reportAll (w : Writer) (colour : Bool) (reports : List CycleReport) : Writer :=
  reports.foldl (fun w report => (w.report colour report).2) w

private theorem Writer.reportAll_of_accepts {w : Writer} {colour : Bool}
    {reports : List CycleReport} (h : w.Accepts (reports.map (·.block colour))) :
    w.reportAll colour reports = w.past (reports.map (·.block colour)) := by
  induction reports generalizing w with
  | nil => exact past_nil.symm
  | cons report later ih =>
    obtain ⟨hfirst, hlater⟩ := accepts_cons_iff.mp h
    rw [List.map_cons, past_cons, ← ih hlater, reportAll, List.foldl_cons, report_of_accepts hfirst]
    rfl

/-- What a writer that never breaks has of some reports. -/
theorem Writer.written_reportAll (colour : Bool) (reports : List CycleReport) :
    (Writer.reportAll {} colour reports).written = CycleReport.stream colour reports := by
  have haccepts : Writer.Accepts {} (reports.map (·.block colour)) :=
    ⟨fun _ => nofun, fun _ => nofun⟩
  rw [reportAll_of_accepts haccepts, past, String.empty_append, CycleReport.stream]

/-- Without colours, all that reports show can be told from the output, and nothing else decides
it: two series of reports are written alike exactly if they are as many and show the same. -/
theorem written_eq_iff_shown (first second : List CycleReport) :
    (Writer.reportAll {} false first).written = (Writer.reportAll {} false second).written ↔
      first.map CycleReport.shown = second.map CycleReport.shown := by
  rw [Writer.written_reportAll, Writer.written_reportAll, CycleReport.stream_inj_pages,
    CycleReport.flatMap_page_inj]

end PollAudit
