import Mathlib.Data.List.Basic
import PollAudit.Text.Split

namespace PollAudit.Text

variable {cuts : Char → Bool} {c separator : Char} {text front back : List Char}

private theorem splitAt_eq_splitOnP (cuts : Char → Bool) (text : List Char) :
    splitAt cuts text = text.splitOnP cuts := by
  induction text with
  | nil => rfl
  | cons c text ih =>
    rw [List.splitOnP_cons_eq_if_modifyHead, ← ih, splitAt, List.foldr_cons, ← splitAt]
    cases hpieces : splitAt cuts text with
    | nil =>
      rw [ih] at hpieces
      exact absurd hpieces (List.splitOnP_ne_nil cuts text)
    | cons piece rest => rfl

/-- A character at which nothing is cut stands in one of the pieces. -/
theorem exists_mem_splitAt (hc : cuts c = false) (hmem : c ∈ text) :
    ∃ piece ∈ splitAt cuts text, c ∈ piece := by
  rw [splitAt_eq_splitOnP]
  induction text with
  | nil => cases hmem
  | cons d text ih =>
    rw [List.splitOnP_cons_eq_if_modifyHead]
    split
    · rename_i hd
      obtain rfl | hmem := List.mem_cons.mp hmem
      · rw [hc] at hd
        cases hd
      · obtain ⟨piece, hpiece, hmem⟩ := ih hmem
        exact ⟨piece, List.mem_cons_of_mem _ hpiece, hmem⟩
    · obtain ⟨first, rest, hpieces⟩ :=
        List.exists_cons_of_ne_nil (List.splitOnP_ne_nil cuts text)
      rw [hpieces, List.modifyHead_cons]
      obtain rfl | hmem := List.mem_cons.mp hmem
      · exact ⟨_, List.mem_cons_self, List.mem_cons_self⟩
      · obtain ⟨piece, hpiece, hmem⟩ := ih hmem
        rw [hpieces] at hpiece
        obtain rfl | hpiece := List.mem_cons.mp hpiece
        · exact ⟨_, List.mem_cons_self, List.mem_cons_of_mem _ hmem⟩
        · exact ⟨piece, List.mem_cons_of_mem _ hpiece, hmem⟩

/-- The end of a text, if it is not cut, ends the last piece. -/
theorem exists_splitAt_append (hback : ∀ c ∈ back, cuts c = false) (front : List Char) :
    ∃ pieces last, splitAt cuts (front ++ back) = pieces ++ [last ++ back] := by
  rw [splitAt_eq_splitOnP]
  induction front with
  | nil => exact ⟨[], [], List.splitOnP_eq_singleton hback⟩
  | cons c front ih =>
    obtain ⟨pieces, last, hpieces⟩ := ih
    rw [List.cons_append, List.splitOnP_cons_eq_if_modifyHead, hpieces]
    split
    · exact ⟨[] :: pieces, last, rfl⟩
    · cases pieces with
      | nil => exact ⟨[], c :: last, rfl⟩
      | cons first pieces => exact ⟨(c :: first) :: pieces, last, rfl⟩

/-- A text has no last occurrence of a character that it does not have. -/
theorem splitAtLast?_eq_none_iff : splitAtLast? separator text = none ↔ separator ∉ text := by
  induction text with
  | nil => simp [splitAtLast?]
  | cons c text ih =>
    rw [splitAtLast?]
    cases hrest : splitAtLast? separator text with
    | none =>
      have hnot := ih.mp hrest
      by_cases hc : c = separator
      · simp [hc]
      · simp [hc, hnot, Ne.symm hc]
    | some found =>
      have hmem : separator ∈ text := by
        by_contra hnot
        rw [ih.mpr hnot] at hrest
        cases hrest
      simp [hmem]

/-- The last occurrence is the one behind which there is no other. -/
theorem splitAtLast?_append (h : separator ∉ back) (front : List Char) :
    splitAtLast? separator (front ++ separator :: back) = some (front, back) := by
  induction front with
  | nil =>
    rw [List.nil_append, splitAtLast?, splitAtLast?_eq_none_iff.mpr h]
    exact if_pos rfl
  | cons c front ih => rw [List.cons_append, splitAtLast?, ih]

/-- Every text that holds a character has a last occurrence of it. -/
theorem exists_last_of_mem (h : separator ∈ text) :
    ∃ front back, text = front ++ separator :: back ∧ separator ∉ back := by
  obtain ⟨back, front, hreverse, hback⟩ := List.eq_append_cons_of_mem (List.mem_reverse.mpr h)
  refine ⟨front.reverse, back.reverse, ?_, by simpa using hback⟩
  simpa using congrArg List.reverse hreverse

end PollAudit.Text
