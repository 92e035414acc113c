import Mathlib.Data.List.Basic

namespace PollAudit.Text

/-- A text of ASCII characters, of which each is one byte. -/
def IsAscii (text : String) : Prop := ∀ c ∈ text.toList, c.val ≤ 127

/-- A text of ASCII characters that does not end a line. -/
def IsLine (text : String) : Prop := ∀ c ∈ text.toList, c.val ≤ 127 ∧ c ≠ '\n'

instance (text : String) : Decidable (IsLine text) := List.decidableBAll _ text.toList

/-- Two pieces of a line make a line. -/
theorem IsLine.append {first second : String} (hfirst : IsLine first) (hsecond : IsLine second) :
    IsLine (first ++ second) := by
  intro c hc
  rw [String.toList_append, List.mem_append] at hc
  exact hc.elim (hfirst c) (hsecond c)

/-- Lines can be told from the text that they make up, since none of them goes on behind its end. -/
theorem intercalate_inj {first second : List String} (hfirst : ∀ line ∈ first, IsLine line)
    (hsecond : ∀ line ∈ second, IsLine line) (hne : first ≠ []) (hne' : second ≠ []) :
    "\n".intercalate first = "\n".intercalate second ↔ first = second := by
  refine ⟨fun h => ?_, congrArg _⟩
  have hsplit {lines : List String} (hlines : ∀ line ∈ lines, IsLine line) (hne : lines ≠ []) :
      ("\n".intercalate lines).toList.splitOn '\n' = lines.map String.toList := by
    have hend : "\n".toList = ['\n'] := rfl
    rw [String.toList_intercalate, hend]
    refine List.splitOn_intercalate '\n' ?_ (by simpa using hne)
    intro chars hchars hmem
    obtain ⟨line, hline, rfl⟩ := List.mem_map.mp hchars
    exact (hlines line hline _ hmem).2 rfl
  have hpieces := congrArg (fun text => text.toList.splitOn '\n') h
  simp only [hsplit hfirst hne, hsplit hsecond hne'] at hpieces
  exact List.map_injective_iff.mpr (fun _ _ => String.toList_injective) hpieces

/-- A line is ASCII. -/
theorem IsLine.isAscii {text : String} (h : IsLine text) : IsAscii text := fun c hc => (h c hc).1

private theorem IsAscii.append {first second : String} (hfirst : IsAscii first)
    (hsecond : IsAscii second) : IsAscii (first ++ second) := by
  intro c hc
  rw [String.toList_append, List.mem_append] at hc
  exact hc.elim (hfirst c) (hsecond c)

/-- Texts with a separator are ASCII if all of these are. -/
theorem IsAscii.intercalate {separator : String} (hseparator : IsAscii separator)
    {texts : List String} (h : ∀ text ∈ texts, IsAscii text) :
    IsAscii (separator.intercalate texts) := by
  induction texts with
  | nil =>
    rw [String.intercalate_nil]
    exact fun _ => nofun
  | cons text texts ih =>
    simp only [List.mem_cons, forall_eq_or_imp] at h
    cases texts with
    | nil =>
      rw [String.intercalate_singleton]
      exact h.1
    | cons next texts =>
      rw [String.intercalate_cons_cons]
      exact (h.1.append hseparator).append (ih h.2)

/-- In ASCII a character is a byte. -/
theorem IsAscii.utf8ByteSize_eq {text : String} (h : IsAscii text) :
    text.utf8ByteSize = text.length := by
  induction text using String.push_induction with
  | empty => rfl
  | push text c ih =>
    simp only [IsAscii, String.toList_push, List.mem_append, List.mem_singleton] at h
    rw [String.utf8ByteSize_push, String.length_push, ih fun d hd => h d (.inl hd),
      Char.utf8Size_eq_one_iff.mpr (h c (.inr rfl))]

/-- A number is written with digits only. -/
theorem isDigit_of_mem_toString_nat {n : Nat} {c : Char} (h : c ∈ (toString n).toList) :
    c.isDigit = true := by
  apply Nat.isDigit_of_mem_toDigits (b := 10) (n := n) (by decide) (by decide)
  simpa [toString] using h

/-- A number ends no line. -/
theorem isLine_toString_nat (n : Nat) : IsLine (toString n) := by
  intro c hc
  have hdigit := isDigit_of_mem_toString_nat hc
  constructor
  · have hbound := (Char.isDigit_iff_toNat.mp hdigit).2
    have hnine : '9'.toNat = 57 := rfl
    rw [UInt32.le_iff_toNat_le]
    change c.toNat ≤ 127
    omega
  · rintro rfl
    simp at hdigit

/-- A flag ends no line. -/
theorem isLine_toString_bool (b : Bool) : IsLine (toString b) := by
  cases b <;> decide

/-- A number can be told from its digits. -/
theorem toString_nat_inj {m n : Nat} : toString m = toString n ↔ m = n := by
  refine ⟨fun h => ?_, congrArg toString⟩
  have hdigits := congrArg (fun text => Nat.ofDigitChars 10 text.toList 0) h
  simpa [toString] using hdigits

/-- Flags are written differently. -/
theorem toString_bool_inj {a b : Bool} : toString a = toString b ↔ a = b := by
  cases a <;> cases b <;> decide

end PollAudit.Text
