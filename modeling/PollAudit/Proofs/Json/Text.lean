import PollAudit.Json.Skip
import PollAudit.Proofs.Json.Reads

namespace PollAudit.Json

variable {text later rest : List Char} {n m : Nat}

namespace Quad

private theorem hexQuad_eq (h : Quad text n later) (place : Place) :
    hexQuad text place = .ok n := by
  cases h with
  | mk ha hb hc hd => simp only [hexQuad, ha, hb, hc, hd]

private theorem exists_append (h : Quad text n later) :
    ∃ digits, digits.length = 4 ∧ text = digits ++ later := by
  cases h with
  | @mk a b c d => exact ⟨[a, b, c, d], rfl, rfl⟩

private theorem drop_eq (h : Quad text n later) : text.drop 4 = later := by
  cases h
  rfl

/-- The text gives away whether it begins with a unit. -/
theorem of_hexQuad {place : Place} (h : hexQuad text place = .ok n) : ∃ later, Quad text n later := by
  unfold hexQuad at h
  split at h
  · split at h
    · rename_i ha hb hc hd
      obtain rfl := Except.ok.inj h
      exact ⟨_, .mk ha hb hc hd⟩
    · cases h
  · cases h

end Quad

private theorem escape_short {c d : Char} (h : shortEscape? c = some d) (text : List Char)
    (place : Place) :
    escape (c :: text) place = .ok (d, 1) := by
  unfold shortEscape? at h
  split at h <;> cases h <;> rfl

private theorem escape_unit (hquad : Quad text n later) (hleading : ¬ IsLeading n)
    (htrailing : ¬ IsTrailing n) (place : Place) :
    escape ('u' :: text) place = .ok (Char.ofNat n, 5) := by
  have hlow : (0xdc00 ≤ n && n ≤ 0xdfff) = false := by simpa [IsTrailing] using htrailing
  have hhigh : (0xd800 ≤ n && n ≤ 0xdbff) = false := by simpa [IsLeading] using hleading
  simp only [escape, unicodeEscape, hquad.hexQuad_eq, Bind.bind, Except.bind, hlow, hhigh,
    Bool.false_eq_true, if_false]

private theorem escape_pair {second : List Char} (hquad : Quad text n ('\\' :: 'u' :: second))
    (hleading : IsLeading n) (hquad' : Quad second m later) (htrailing : IsTrailing m)
    (place : Place) : escape ('u' :: text) place = .ok (joined n m, 11) := by
  have hlow : (0xdc00 ≤ n && n ≤ 0xdfff) = false := by
    simp only [IsLeading] at hleading
    simp only [Bool.and_eq_false_iff, decide_eq_false_iff_not]
    omega
  have hhigh : (0xd800 ≤ n && n ≤ 0xdbff) = true := by simpa [IsLeading] using hleading
  have htrails : (0xdc00 ≤ m && m ≤ 0xdfff) = true := by simpa [IsTrailing] using htrailing
  simp only [escape, unicodeEscape, hquad.hexQuad_eq, hquad.drop_eq, trailingSurrogate,
    hquad'.hexQuad_eq, Bind.bind, Except.bind, hlow, hhigh, htrails, Bool.false_eq_true, if_false,
    if_true]
  rfl

/-- A half can only be read as one if the other follows. -/
theorem exists_trailingSurrogate_eq_error {place : Place}
    (h : ∀ second m behind, later = '\\' :: 'u' :: second → Quad second m behind → ¬ IsTrailing m) :
    ∃ fault, trailingSurrogate later place = .error fault := by
  unfold trailingSurrogate
  split
  · exact ⟨_, rfl⟩
  · split
    · exact ⟨_, rfl⟩
    · rename_i second
      cases hquad : hexQuad second ((place.after '\\').after 'u') with
      | error fault =>
        refine ⟨fault, ?_⟩
        simp only [hquad, Bind.bind, Except.bind]
      | ok m =>
        obtain ⟨behind, hbehind⟩ := Quad.of_hexQuad hquad
        have hnot := h second m behind rfl hbehind
        have htrails : (0xdc00 ≤ m && m ≤ 0xdfff) = false := by simpa [IsTrailing] using hnot
        simp only [hquad, Bind.bind, Except.bind, htrails, Bool.false_eq_true, if_false]
        exact ⟨_, rfl⟩
    · exact ⟨_, rfl⟩
  · exact ⟨_, rfl⟩

private theorem exists_escape_eq_error (hquad : Quad text n later)
    (hlone : IsTrailing n ∨ IsLeading n ∧
      ∀ second m behind, later = '\\' :: 'u' :: second → Quad second m behind → ¬ IsTrailing m)
    (place : Place) : ∃ fault, escape ('u' :: text) place = .error fault := by
  simp only [escape, unicodeEscape, hquad.hexQuad_eq, hquad.drop_eq, Bind.bind, Except.bind]
  obtain htrailing | ⟨hleading, halone⟩ := hlone
  · have hlow : (0xdc00 ≤ n && n ≤ 0xdfff) = true := by simpa [IsTrailing] using htrailing
    simp only [hlow, if_true]
    exact ⟨_, rfl⟩
  · have hlow : (0xdc00 ≤ n && n ≤ 0xdfff) = false := by
      simp only [IsLeading] at hleading
      simp only [Bool.and_eq_false_iff, decide_eq_false_iff_not]
      omega
    have hhigh : (0xd800 ≤ n && n ≤ 0xdbff) = true := by simpa [IsLeading] using hleading
    simp only [hlow, hhigh, Bool.false_eq_true, if_false, if_true]
    obtain ⟨fault, hfault⟩ := exists_trailingSurrogate_eq_error halone
    rw [hfault]
    exact ⟨fault, rfl⟩

/-- The characters of an escape that was read are passed over. -/
theorem stringBody_append (used : List Char) (found text : List Char) (place : Place) :
    stringBody used.length found (used ++ text) place =
      stringBody 0 found text (place.afterAll used) := by
  induction used generalizing place with
  | nil => rfl
  | cons c used ih => exact ih (place.after c)

private theorem skipString_append (used text : List Char) (place : Place) :
    skipString used.length (used ++ text) place = skipString 0 text (place.afterAll used) := by
  induction used generalizing place with
  | nil => rfl
  | cons c used ih => exact ih (place.after c)

open Reader

private theorem skips_quad {expected : Option Unit} (hquad : Quad text n later)
    (h : Reads (fun cursor => skipString 0 cursor.rest cursor.place) later expected rest) :
    Reads (fun cursor => skipString 0 cursor.rest cursor.place) ('\\' :: 'u' :: text)
      expected rest := by
  obtain ⟨digits, hlength, rfl⟩ := hquad.exists_append
  intro place
  have hquote : '\\' ≠ '"' := by decide
  have hskip := skipString_append digits later ((place.after '\\').after 'u')
  rw [hlength] at hskip
  simp only [skipString, if_neg hquote, if_true, hquad.hexQuad_eq, Bind.bind, Except.bind, hskip]
  exact h _

private theorem skips_short {c d : Char} {expected : Option Unit} (hshort : shortEscape? c = some d)
    (h : Reads (fun cursor => skipString 0 cursor.rest cursor.place) text expected rest) :
    Reads (fun cursor => skipString 0 cursor.rest cursor.place) ('\\' :: c :: text)
      expected rest := by
  intro place
  have hquote : '\\' ≠ '"' := by decide
  have hnot : c ≠ 'u' := fun hc => by
    rw [hc] at hshort
    cases hshort
  have hmem : c ∈ ['"', '\\', '/', 'b', 'f', 'n', 'r', 't'] := by
    unfold shortEscape? at hshort
    split at hshort <;> first | decide | cases hshort
  have hstep : skipString 0 ('\\' :: c :: text) place =
      skipString 1 (c :: text) (place.after '\\') := by
    rw [skipString.eq_def]
    simp only [if_neg hquote, if_true]
    split
    · rfl
    · exact absurd hmem ‹_›
  change Finds (skipString 0 ('\\' :: c :: text) place) expected rest
  rw [hstep]
  exact h _

namespace Letters

variable {s : Option (List Char)}

/-- A character that was read goes to the front of those that follow. -/
theorem map_cons (c : Char) (found : List Char) :
    (s.map (c :: ·)).map (fun letters => String.ofList (found.reverse ++ letters)) =
      s.map fun letters => String.ofList ((c :: found).reverse ++ letters) := by
  rw [Option.map_map]
  refine congrArg (s.map ·) (funext fun letters => ?_)
  rw [Function.comp_apply, List.reverse_cons, List.append_assoc, List.singleton_append]

/-- An escape is read in one step, and its characters are passed over then. -/
theorem reads_escape (used : List Char) {c : Char} {expected : Option String} {found : List Char}
    (hescape : ∀ place, escape (used ++ text) place = .ok (c, used.length))
    (h : Reads (fun cursor => stringBody 0 (c :: found) cursor.rest cursor.place) text expected rest) :
    Reads (fun cursor => stringBody 0 found cursor.rest cursor.place) ('\\' :: (used ++ text))
      expected rest := by
  intro place
  have hquote : '\\' ≠ '"' := by decide
  simp only [stringBody, if_neg hquote, if_true, hescape, Bind.bind, Except.bind,
    stringBody_append]
  exact h _

/-- A string is read as what its letters stand for, and not at all if they stand for nothing. -/
theorem reads (h : Letters text s rest) (found : List Char) :
    Reads (fun cursor => stringBody 0 found cursor.rest cursor.place) text
      (s.map fun letters => String.ofList (found.reverse ++ letters)) rest := by
  induction h generalizing found with
  | close =>
    intro place
    simp only [stringBody, if_true, Option.map_some, List.append_nil]
    exact .ok _ _ _
  | @plain c text rest s hquote hescape hcontrol _ ih =>
    intro place
    have hnot : ¬ c.toNat < 32 := Nat.not_lt.mpr hcontrol
    simp only [stringBody, if_neg hquote, if_neg hescape, if_neg hnot, map_cons]
    exact ih (c :: found) (place.after c)
  | @short c d text rest s hshort _ ih =>
    rw [map_cons]
    exact reads_escape [c] (escape_short hshort text) (ih (d :: found))
  | @unit n text later rest s hquad hleading htrailing _ ih =>
    rw [map_cons]
    obtain ⟨digits, hlength, rfl⟩ := hquad.exists_append
    refine reads_escape ('u' :: digits) (fun place => ?_) (ih _)
    rw [List.length_cons, hlength]
    exact escape_unit hquad hleading htrailing place
  | @pair n m text second later rest s hquad hleading hquad' htrailing _ ih =>
    rw [map_cons]
    obtain ⟨digits, hlength, rfl⟩ := hquad.exists_append
    obtain ⟨digits', hlength', rfl⟩ := hquad'.exists_append
    have hused : digits ++ '\\' :: 'u' :: (digits' ++ later) =
      (digits ++ '\\' :: 'u' :: digits') ++ later := by simp
    rw [hused]
    refine reads_escape ('u' :: (digits ++ '\\' :: 'u' :: digits')) (fun place => ?_) (ih _)
    simp only [List.length_cons, List.length_append, hlength, hlength', List.cons_append, ← hused]
    exact escape_pair hquad hleading hquad' htrailing place
  | lone hquad hlone _ _ =>
    intro place
    have hquote : '\\' ≠ '"' := by decide
    obtain ⟨fault, hfault⟩ := exists_escape_eq_error hquad hlone (place.after '\\')
    simp only [stringBody, if_neg hquote, if_true, hfault, Bind.bind, Except.bind]
    exact .error fault _

/-- A text is read up to its closing quote. -/
theorem reads_text (h : Letters text s rest) :
    Reader.text.Reads ('"' :: text) (s.map String.ofList) rest :=
  Reads.skip.bind (h.reads [])

/-- Letters are passed over whether they stand for something or not. -/
theorem skips (h : Letters text s rest) :
    Reads (fun cursor => skipString 0 cursor.rest cursor.place) text (some ()) rest := by
  induction h with
  | close =>
    intro place
    simp only [skipString, if_true]
    exact .ok _ _ _
  | @plain c text rest s hquote hescape hcontrol _ ih =>
    intro place
    have hnot : ¬ c.toNat < 32 := Nat.not_lt.mpr hcontrol
    simp only [skipString, if_neg hquote, if_neg hescape, if_neg hnot]
    exact ih _
  | @short c d text rest s hshort _ ih =>
    exact skips_short hshort ih
  | unit hquad _ _ _ ih => exact skips_quad hquad ih
  | pair hquad _ hquad' _ _ ih => exact skips_quad hquad (skips_quad hquad' ih)
  | lone hquad _ _ ih => exact skips_quad hquad ih

/-- A text is skipped up to its closing quote, broken escapes and all. -/
theorem reads_skipText (h : Letters text s rest) :
    Reader.skipText.Reads ('"' :: text) (some ()) rest :=
  Reads.skip.bind h.skips

end Letters

end PollAudit.Json
