import Mathlib.Data.List.Basic
import PollAudit.Text.Normal

namespace PollAudit.Text

variable {c base : Char} {text kept rest : List Char}

private theorem decompose_of_lt {n : Nat} (h : n < leastComposite) (depth : Nat) :
    decompose depth n = [n] := by
  cases depth with
  | zero => rfl
  | succ depth => rw [decompose, parts?, if_pos h]

private theorem mem_sink {d : Char} : d ∈ sink c text ↔ d = c ∨ d ∈ text := by
  induction text with
  | nil => simp [sink]
  | cons e text ih =>
    rw [sink]
    split
    · simp [ih, or_left_comm]
    · simp

private theorem mem_foldr_sink : c ∈ text.foldr sink [] ↔ c ∈ text := by
  induction text with
  | nil => rfl
  | cons d text ih => rw [List.foldr_cons, mem_sink, ih, List.mem_cons]

/-- A character below all composites is not taken apart. -/
theorem mem_decomposed (h : c.toNat < leastComposite) (hmem : c ∈ text) : c ∈ decomposed text := by
  rw [decomposed, mem_foldr_sink, List.mem_flatMap]
  refine ⟨c, hmem, ?_⟩
  rw [decompose_of_lt h, List.map_singleton, Char.ofNat_toNat]
  exact List.mem_singleton_self c

private theorem compose?_eq_none {a b : Nat} (h : a < leastBase ∨ b < leastMark) :
    compose? a b = none := by
  have hbound : (a < leastBase || b < leastMark) = true := by
    simpa using h
  rw [compose?, if_pos hbound]

/-- A character that nothing is composed of stays through the composition of what follows a base. -/
theorem mem_composeFrom (h : c.toNat < leastBase) (hmem : c = base ∨ c ∈ kept ∨ c ∈ rest) :
    c ∈ composeFrom base kept rest := by
  have hmark : c.toNat < leastMark := Nat.lt_trans h (by decide)
  induction rest generalizing base kept with
  | nil => simpa [composeFrom] using hmem
  | cons d rest ih =>
    rw [composeFrom]
    split
    · rename_i n hcomposed
      rw [Option.ite_none_left_eq_some] at hcomposed
      obtain ⟨_, hcomposed⟩ := hcomposed
      have hbase : c ≠ base := by
        rintro rfl
        rw [compose?_eq_none (.inl h)] at hcomposed
        cases hcomposed
      have hd : c ≠ d := by
        rintro rfl
        rw [compose?_eq_none (.inr hmark)] at hcomposed
        cases hcomposed
      refine ih (.inr ?_)
      simpa [hbase, hd] using hmem
    · split
      · obtain rfl | hmem | hmem := hmem
        · exact List.mem_append_left _ List.mem_cons_self
        · exact List.mem_append_left _ (List.mem_cons_of_mem _ hmem)
        · exact List.mem_append_right _ (ih (by simpa using hmem))
      · refine ih ?_
        simpa [or_assoc] using hmem

private theorem mem_compose (h : c.toNat < leastBase) (hmem : c ∈ text) : c ∈ compose text := by
  induction text with
  | nil => cases hmem
  | cons d text ih =>
    rw [compose]
    split
    · refine mem_composeFrom h ?_
      simpa using hmem
    · obtain rfl | hmem := List.mem_cons.mp hmem
      · exact List.mem_cons_self
      · exact List.mem_cons_of_mem _ (ih hmem)

/-- A character that nothing is composed of stays in the normal form of a text. -/
theorem mem_normal (h : c.toNat < leastBase) (hmem : c ∈ text) : c ∈ normal text :=
  mem_compose h (mem_decomposed (Nat.lt_trans h (by decide)) hmem)

end PollAudit.Text
