import PollAudit.Proofs.Text.Utf8
import PollAudit.Url.Percent

namespace PollAudit.Url

open Text

variable {set : EscapeSet} {c : Char} {text rest : List Char}

/-! ## Reading an escaped text -/

private theorem hexValue?_upperHex : ∀ digit < 16, hexValue? (upperHex digit) = some digit := by
  decide

private theorem escapedByte?_upperHex (b : UInt8) (rest : List Char) :
    escapedByte? (upperHex (b.toNat / 16) :: upperHex (b.toNat % 16) :: rest) = some b := by
  have hlt := b.toNat_lt
  rw [escapedByte?, hexValue?_upperHex _ (by omega), hexValue?_upperHex _ (by omega)]
  have hvalue : 16 * (b.toNat / 16) + b.toNat % 16 = b.toNat := by
    omega
  simp only [hvalue, UInt8.ofNat_toNat]

private theorem unescape_escapeByte_append (b : UInt8) (rest : List Char) :
    unescape (escapeByte b ++ rest) = b :: unescape rest := by
  rw [unescape, escapeByte, List.cons_append, unescapeFrom, if_pos rfl, List.cons_append,
    List.cons_append, escapedByte?_upperHex]
  rfl

private theorem unescape_flatMap_escapeByte_append (bytes : List UInt8) (rest : List Char) :
    unescape (bytes.flatMap escapeByte ++ rest) = bytes ++ unescape rest := by
  induction bytes with
  | nil => rfl
  | cons b bytes ih =>
    rw [List.flatMap_cons, List.append_assoc, unescape_escapeByte_append, ih, List.cons_append]

private theorem unescape_cons_of_ne (hc : c ≠ '%') :
    unescape (c :: rest) = String.utf8EncodeChar c ++ unescape rest := by
  rw [unescape, unescapeFrom, if_neg hc]
  rfl

/-- A text that was escaped with a set that holds the percent sign is read as the bytes of the
text. -/
theorem unescape_escape (hset : set '%' = true) (text : List Char) :
    unescape (escape set text) = Utf8.encode text := by
  induction text with
  | nil => rfl
  | cons c text ih =>
    change unescape (escapeChar set c ++ escape set text) =
      String.utf8EncodeChar c ++ Utf8.encode text
    rw [← ih]
    by_cases hc : set c = true
    · rw [escapeChar, if_pos hc, unescape_flatMap_escapeByte_append]
    · have hne : c ≠ '%' := fun heq => hc (heq ▸ hset)
      rw [escapeChar, if_neg hc, List.singleton_append, unescape_cons_of_ne hne]

/-- A character that is free stands for itself in the escaped text. -/
theorem mem_escape_of_free (hc : set c = false) (hmem : c ∈ text) : c ∈ escape set text := by
  refine List.mem_flatMap.mpr ⟨c, hmem, ?_⟩
  rw [escapeChar, hc]
  exact List.mem_singleton_self c

/-- What stands in an escaped text belongs to an escape or needs none. -/
theorem mem_escape (h : c ∈ escape set text) :
    set c = false ∨ c = '%' ∨ ∃ digit < 16, c = upperHex digit := by
  obtain ⟨source, _, hc⟩ := List.mem_flatMap.mp h
  rw [escapeChar] at hc
  split at hc
  · obtain ⟨b, _, hb⟩ := List.mem_flatMap.mp hc
    have hlt := b.toNat_lt
    simp only [escapeByte, List.mem_cons, List.not_mem_nil, or_false] at hb
    obtain rfl | rfl | rfl := hb
    · exact .inr (.inl rfl)
    · exact .inr (.inr ⟨_, by omega, rfl⟩)
    · exact .inr (.inr ⟨_, by omega, rfl⟩)
  · rename_i hset
    rw [List.mem_singleton] at hc
    exact .inl (hc ▸ Bool.not_eq_true _ ▸ hset)

/-! ## Reading any text -/

/-- An escape is made of two digits. -/
theorem hexValue?_isSome_of_escapedByte? {b : UInt8} (h : escapedByte? rest = some b) :
    ∀ c ∈ rest.take 2, (hexValue? c).isSome := by
  match rest, h with
  | high :: low :: rest, h =>
    rw [escapedByte?] at h
    split at h
    · rename_i hhigh hlow
      simp [hhigh, hlow]
    · cases h

/-- The bytes of a character that no escape is made of are among those of the text. -/
theorem mem_unescapeFrom {used : Nat} {b : UInt8} (hb : b ∈ String.utf8EncodeChar c)
    (hpercent : c ≠ '%') (hhex : hexValue? c = none) (hmem : c ∈ text.drop used) :
    b ∈ unescapeFrom used text := by
  induction text generalizing used with
  | nil => simp at hmem
  | cons head text ih =>
    cases used with
    | succ used => exact ih hmem
    | zero =>
      rw [List.drop_zero, List.mem_cons] at hmem
      rw [unescapeFrom]
      split
      · rename_i escaped hescaped
        split at hescaped
        · rename_i hhead
          obtain rfl | hmem := hmem
          · exact absurd hhead hpercent
          rw [← List.take_append_drop 2 text, List.mem_append] at hmem
          obtain hdigit | hmem := hmem
          · have hsome := hexValue?_isSome_of_escapedByte? hescaped c hdigit
            rw [hhex] at hsome
            cases hsome
          · exact List.mem_cons_of_mem _ (ih hmem)
        · cases hescaped
      · obtain rfl | hmem := hmem
        · exact List.mem_append_left _ hb
        · exact List.mem_append_right _ (ih hmem)

end PollAudit.Url
