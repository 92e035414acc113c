import Mathlib.Data.List.Forall2
import PollAudit.Proofs.Report.Stream
import PollAudit.Proofs.Text.Rendition

namespace PollAudit

open Text.Rendition

namespace Tint

/-- What sets one rendition parameter is a rendition sequence. -/
theorem styles_sequence (parameter : Nat) {styled plain : List Char} (h : Styles styled plain) :
    Styles ((sequence parameter).toList ++ styled) plain := by
  have hparameters : ∀ c ∈ (toString parameter).toList, isParameter c = true := by
    intro c hc
    obtain ⟨hzero, hnine⟩ := Char.isDigit_iff_toNat.mp (Text.isDigit_of_mem_toString_nat hc)
    have hlow : '0'.toNat ≤ c.toNat := hzero
    have hhigh : c.toNat ≤ '?'.toNat := hnine.trans (by decide)
    rw [isParameter, Bool.and_eq_true, decide_eq_true_eq, decide_eq_true_eq]
    exact ⟨hlow, hhigh⟩
  have hsequence : (sequence parameter).toList ++ styled =
      escape :: '[' :: ((toString parameter).toList ++ 'm' :: styled) := by
    rw [sequence, String.toList_append, String.toList_append, List.append_assoc, List.append_assoc]
    rfl
  rw [hsequence]
  exact .sequence hparameters h

private theorem styles_paint (tint : Tint) {text : String} (h : escape ∉ text.toList) :
    Styles (tint.paint text).toList text.toList := by
  have hend : Styles ((sequence 39).toList ++ (sequence 0).toList) [] := by
    simpa using styles_sequence 39 (styles_sequence 0 .nil)
  have htext := (Styles.refl h).append hend
  rw [List.append_nil] at htext
  simp only [paint, String.toList_append, List.append_assoc]
  exact styles_sequence 1 (styles_sequence tint.code htext)

private theorem paint_ne (tint : Tint) {text : String} (h : escape ∉ text.toList) :
    tint.paint text ≠ text := by
  intro heq
  rw [← heq, paint] at h
  refine h ?_
  simp only [String.toList_append, List.mem_append, or_assoc]
  exact .inl (by decide)

end Tint

namespace CycleReport

private theorem styles_tinted (colour : Bool) (tint : Tint) {text : String}
    (h : escape ∉ text.toList) :
    Styles (tinted colour tint text).toList text.toList := by
  cases colour with
  | false => exact .refl h
  | true => exact tint.styles_paint h

private theorem tinted_eq_iff {colour : Bool} {tint : Tint} {text : String}
    (h : escape ∉ text.toList) :
    tinted colour tint text = text ↔ colour = false := by
  cases colour with
  | false => exact iff_of_true rfl rfl
  | true => exact iff_of_false (tint.paint_ne h) nofun

/-- Line by line, a report with colours is the one without, with rendition sequences put in. -/
theorem styles_lines (report : CycleReport) :
    List.Forall₂ (fun a b => Styles a.toList b.toList) (report.lines true)
      (report.lines false) := by
  have hlockouts (colour : Bool) : Styles
      ("Lockouts: " ++ tinted colour .yellow (toString report.lockouts)).toList
      ("Lockouts: " ++ toString report.lockouts).toList := by
    rw [String.toList_append, String.toList_append]
    exact (Styles.refl (by decide)).append
      (styles_tinted colour .yellow (escape_not_mem_toString_bool _))
  rw [lines, lines]
  refine List.rel_append ?_ ?_
  · refine .cons (hlockouts _) (List.forall₂_same.mpr fun line hline => .refl ?_)
    simp only [List.mem_cons, List.not_mem_nil, or_false] at hline
    obtain rfl | rfl | rfl | rfl | rfl := hline
    all_goals exact escape_not_mem_append (by decide) (escape_not_mem_toString_nat _)
  · cases report.incorrect with
    | none => exact .nil
    | some count =>
      exact .cons (styles_tinted true .red (escape_not_mem_append (by decide)
        (escape_not_mem_toString_nat _))) .nil

private theorem styles_render (report : CycleReport) :
    Styles (report.render true).toList (report.render false).toList :=
  .intercalate (by decide) report.styles_lines

private theorem lines_eq_iff (report : CycleReport) :
    report.lines true = report.lines false ↔
      report.lockouts = false ∧ report.incorrect = none := by
  have hlockouts : tinted report.lockouts .yellow (toString report.lockouts) =
      toString report.lockouts ↔ report.lockouts = false :=
    tinted_eq_iff (escape_not_mem_toString_bool _)
  have hplain (text : String) (tint : Tint) : tinted false tint text = text := rfl
  rw [lines, lines]
  simp only [Bool.true_and, Bool.false_and, hplain, List.cons_append, List.nil_append,
    List.cons.injEq, String.append_right_inj, hlockouts, true_and, and_congr_right_iff]
  intro _
  cases report.incorrect with
  | none => exact iff_of_true rfl rfl
  | some count =>
    have hlast : tinted true .red ("INCORRECT COUNT: " ++ toString count.toNat) =
        "INCORRECT COUNT: " ++ toString count.toNat ↔ true = false :=
      tinted_eq_iff (escape_not_mem_append (by decide) (escape_not_mem_toString_nat _))
    simp only [List.cons.injEq, hlast, reduceCtorEq, false_and]

/-- A report with colours is the report without them, but for the sequences that set the colours.
It has none exactly if no lockout and no incorrect count is reported, and without colours there is
never one. -/
theorem strip_render (report : CycleReport) :
    strip (report.render true) = report.render false ∧
      (report.render true = report.render false ↔
        report.lockouts = false ∧ report.incorrect = none) ∧
      '\x1b' ∉ (report.render false).toList := by
  have hlines (colour : Bool) : ∀ line ∈ report.lines colour, Text.IsLine line :=
    fun _ => isLine_of_mem_lines
  have hne (colour : Bool) : report.lines colour ≠ [] := by simp [lines]
  refine ⟨?_, ?_, report.styles_render.escape_not_mem⟩
  · rw [strip, report.styles_render.bare_eq, String.ofList_toList]
  · rw [render, render, Text.intercalate_inj (hlines true) (hlines false) (hne true) (hne false),
      lines_eq_iff]

end CycleReport

end PollAudit
