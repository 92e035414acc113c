import PollAudit.Proofs.Text.Line
import PollAudit.Report.Render

namespace PollAudit

private theorem Tint.isLine_paint (tint : Tint) {text : String} (h : Text.IsLine text) :
    Text.IsLine (tint.paint text) := by
  have hcode : Text.IsLine (sequence tint.code) := by cases tint <;> decide
  exact ((((by decide : Text.IsLine (sequence 1)).append hcode).append h).append
    (by decide)).append (by decide)

namespace CycleReport

private theorem isLine_tinted (colour : Bool) (tint : Tint) {text : String} (h : Text.IsLine text) :
    Text.IsLine (tinted colour tint text) := by
  cases colour with
  | false => exact h
  | true => exact tint.isLine_paint h

/-- A report is made of lines. -/
theorem isLine_of_mem_lines {report : CycleReport} {colour : Bool} {line : String}
    (h : line ∈ report.lines colour) : Text.IsLine line := by
  have hfields : ∀ field : Nat, Text.IsLine (toString field) := Text.isLine_toString_nat
  rw [lines, List.mem_append] at h
  obtain hfixed | hlast := h
  · simp only [List.mem_cons, List.not_mem_nil, or_false] at hfixed
    obtain rfl | rfl | rfl | rfl | rfl | rfl := hfixed
    · exact .append (by decide) (isLine_tinted _ _ (Text.isLine_toString_bool _))
    all_goals exact .append (by decide) (Text.isLine_toString_nat _)
  · cases hincorrect : report.incorrect with
    | none => simp [hincorrect] at hlast
    | some count =>
      simp only [hincorrect, List.mem_singleton] at hlast
      subst line
      exact isLine_tinted _ _ (.append (by decide) (Text.isLine_toString_nat _))

/-- The lines of a report and the empty one behind them. -/
def page (report : CycleReport) (colour : Bool) : List String := report.lines colour ++ [""]

/-- A report and the empty line behind it are made of lines. -/
theorem isLine_of_mem_page {report : CycleReport} {colour : Bool} {line : String}
    (h : line ∈ report.page colour) : Text.IsLine line := by
  rw [page, List.mem_append, List.mem_singleton] at h
  obtain h | rfl := h
  · exact isLine_of_mem_lines h
  · decide

private theorem block_append_intercalate (report : CycleReport) (colour : Bool)
    {lines : List String} (h : lines ≠ []) :
    report.block colour ++ "\n".intercalate lines =
      "\n".intercalate (report.page colour ++ lines) := by
  have hlines : report.lines colour ≠ [] := by simp [CycleReport.lines]
  rw [page, List.append_assoc, String.intercalate_append_of_ne_nil hlines (by simp),
    List.singleton_append, String.intercalate_cons_of_ne_nil h, block, render, String.empty_append]
  simp only [String.append_assoc]
  rfl

/-- Reports as they follow each other in the output. -/
def stream (colour : Bool) (reports : List CycleReport) : String :=
  String.join (reports.map (·.block colour))

@[simp] theorem stream_nil (colour : Bool) : stream colour [] = "" := String.join_nil

@[simp] theorem stream_cons (colour : Bool) (report : CycleReport) (later : List CycleReport) :
    stream colour (report :: later) = report.block colour ++ stream colour later :=
  String.join_cons

/-- A single report adds its block. -/
theorem stream_singleton (colour : Bool) (report : CycleReport) :
    stream colour [report] = report.block colour := by
  simp

/-- The output is made of the lines of all reports. -/
theorem stream_eq_intercalate (colour : Bool) (reports : List CycleReport) :
    stream colour reports = "\n".intercalate (reports.flatMap (·.page colour) ++ [""]) := by
  induction reports with
  | nil => rfl
  | cons report later ih =>
    rw [stream_cons, ih, block_append_intercalate _ _ (by simp), List.flatMap_cons,
      List.append_assoc]

/-- All of the output is ASCII. -/
theorem isAscii_stream (colour : Bool) (reports : List CycleReport) :
    Text.IsAscii (stream colour reports) := by
  have hend : Text.IsLine "" := by decide
  rw [stream_eq_intercalate]
  refine .intercalate (by simp [Text.IsAscii]) fun line hline => ?_
  simp only [List.mem_append, List.mem_flatMap, List.mem_singleton] at hline
  obtain ⟨report, _, hline⟩ | rfl := hline
  · exact (isLine_of_mem_page hline).isAscii
  · exact hend.isAscii

end CycleReport

end PollAudit
