import PollAudit.Json.Skip
import PollAudit.Proofs.Json.Reads

namespace PollAudit.Json

variable {text rest figures part scale : List Char}

/-- Nothing follows that digits would go on with. -/
def EndsDigits (rest : List Char) : Prop := ∀ c, rest.head? = some c → c.isDigit = false

private theorem EndsNumber.endsDigits (h : EndsNumber rest) : EndsDigits rest :=
  fun c hc => (h c hc).1

private theorem EndsDigits.cons {c : Char} (h : c.isDigit = false) (text : List Char) :
    EndsDigits (c :: text) := fun _ hd => Option.some.inj hd ▸ h

private theorem IsDigits.exists_cons (h : IsDigits figures) :
    ∃ c later, figures = c :: later ∧ c.isDigit = true := by
  obtain ⟨c, later, rfl⟩ := List.exists_cons_of_ne_nil h.1
  exact ⟨c, later, rfl, h.2 c List.mem_cons_self⟩

/-- The whole part of a number begins with a digit. -/
theorem IsWhole.exists_cons (h : IsWhole figures) :
    ∃ c later, figures = c :: later ∧ c.isDigit = true := by
  cases h with
  | zero => exact ⟨'0', [], rfl, rfl⟩
  | digits h _ => exact h.exists_cons

/-- A numeral begins with a sign or a digit. -/
theorem IsNumeral.exists_cons {numeral : List Char} (h : IsNumeral numeral) :
    ∃ c later, numeral = c :: later ∧ (c = '-' ∨ c.isDigit = true) := by
  cases h with
  | mk hsign hwhole _ _ =>
    obtain rfl | rfl := hsign
    · obtain ⟨c, later, rfl, hc⟩ := hwhole.exists_cons
      exact ⟨c, _, rfl, .inr hc⟩
    · exact ⟨'-', _, rfl, .inl rfl⟩

private theorem IsExponent.endsDigits (h : IsExponent scale) (hends : EndsNumber rest) :
    EndsDigits (scale ++ rest) := by
  cases h with
  | none => exact hends.endsDigits
  | digits hletter _ _ => obtain rfl | rfl := hletter <;> exact .cons rfl _

private theorem IsFraction.endsDigits (h : IsFraction part) (hscale : IsExponent scale)
    (hends : EndsNumber rest) : EndsDigits (part ++ (scale ++ rest)) := by
  cases h with
  | none => exact hscale.endsDigits hends
  | digits _ => exact .cons rfl _

namespace Reader

/-- What the reader makes of the characters does not hang on what follows, as long as that does not
go on with a number. -/
def Settles {α : Type} (reader : Reader α) (text : List Char) : Prop :=
  ∃ expected, ∀ rest, EndsNumber rest → reader.Reads (text ++ rest) expected rest

namespace Reads

private theorem digits (h : ∀ c ∈ figures, c.isDigit = true) (hends : EndsDigits rest) :
    Reader.digits.Reads (figures ++ rest) (some figures) rest := by
  intro place
  have hnone : rest.takeWhile Char.isDigit = [] ∧ rest.dropWhile Char.isDigit = rest := by
    cases rest with
    | nil => exact ⟨rfl, rfl⟩
    | cons c rest =>
      have hc := hends c rfl
      exact ⟨List.takeWhile_cons_of_neg (by simp [hc]), List.dropWhile_cons_of_neg (by simp [hc])⟩
  have htake : (figures ++ rest).takeWhile Char.isDigit = figures := by
    rw [List.takeWhile_append_of_pos h, hnone.1, List.append_nil]
  have hdrop : (figures ++ rest).dropWhile Char.isDigit = rest := by
    rw [List.dropWhile_append_of_pos h, hnone.2]
  simp only [Reader.digits, htake, hdrop]
  exact .ok figures rest _

private theorem real (negative : Bool) (s : Significand) (text : List Char) :
    (Reader.real negative s).Reads text ((s.toBinary64 negative).map .real) text := by
  rw [Reader.real]
  cases s.toBinary64 negative with
  | none => exact failHere _
  | some x => exact pure _ text

end Reads

variable (negative : Bool) (s : Significand)

/-- The sign of an exponent, which is read up to the first digit, says whether it is negative. -/
theorem reads_sign {α : Type} {next : Bool → Reader α} {expected : Option α} {sign : List Char}
    {c : Char} (hsign : sign = [] ∨ sign = ['+'] ∨ sign = ['-']) (hc : c.isDigit = true)
    (h : (next (sign == ['-'])).Reads (c :: text) expected rest) :
    (do
      let down ←
        match ← peek with
        | some '+' => do skip; pure false
        | some '-' => do skip; pure true
        | _ => pure false
      next down : Reader α).Reads (sign ++ c :: text) expected rest := by
  refine (Reads.peek _).bind ?_
  obtain rfl | rfl | rfl := hsign
  · simp only [List.nil_append, List.head?_cons]
    split
    · rename_i hplus
      cases hplus
      cases hc
    · rename_i hminus
      cases hminus
      cases hc
    · exact (Reads.pure _ _).bind h
  · exact Reads.skip.bind ((Reads.pure _ _).bind h)
  · exact Reads.skip.bind ((Reads.pure _ _).bind h)

/-- What the digits of an exponent make of a significand. -/
def scaled? (down : Bool) (figures : List Char) : Option Number :=
  match exponentDigits 0 0 figures with
  | none =>
    let e : Int := (figures.foldl (fun n c => 10 * n + digitValue c) 0 : Nat)
    (Significand.toBinary64 { s with exponent := if down then s.exponent - e else s.exponent + e }
      negative).map .real
  | some _ =>
    if s.value != 0 && !down then none else (Significand.toBinary64 {} negative).map .real

/-- What follows the sign of an exponent. -/
def behindSign (down : Bool) : Reader Number := do
  match ← peek with
  | none => failHere .endOfValue
  | some c =>
    if !c.isDigit then failNext .invalidNumber
    else
      let start ← get
      let found ← digits
      match exponentDigits 0 0 found with
      | none =>
        let e : Int := (found.foldl (fun n c => 10 * n + digitValue c) 0 : Nat)
        real negative { s with exponent := if down then s.exponent - e else s.exponent + e }
      | some count =>
        if s.value != 0 && !down then
          set { start with
            place := { start.place with column := start.place.column + count } }
          failHere .numberOutOfRange
        else real negative {}

private theorem reads_behindSign (down : Bool) (h : IsDigits figures) (hends : EndsDigits rest) :
    (behindSign negative s down).Reads (figures ++ rest) (scaled? negative s down figures) rest := by
  obtain ⟨c, later, rfl, hc⟩ := h.exists_cons
  refine (Reads.peek _).bind ?_
  simp only [List.cons_append, List.head?_cons, hc, Bool.not_true, Bool.false_eq_true, if_false]
  refine Reads.get_bind fun place => (Reads.digits h.2 hends).bind ?_
  rw [scaled?]
  cases exponentDigits 0 0 (c :: later) with
  | none => exact Reads.real negative _ rest
  | some count =>
    simp only
    split
    · exact fun _ => .error _ rest
    · exact Reads.real negative {} rest

private theorem settles_exponent (h : IsExponent scale) (hsome : scale ≠ []) :
    (exponent negative s).Settles scale := by
  cases h with
  | none => exact absurd rfl hsome
  | @digits letter sign figures hletter hsign h =>
    refine ⟨scaled? negative s (sign == ['-']) figures, fun rest hends => ?_⟩
    have hfigures := reads_behindSign negative s (sign == ['-']) h hends.endsDigits
    obtain ⟨c, later, rfl, hc⟩ := h.exists_cons
    rw [exponent, List.cons_append, List.append_assoc]
    exact Reads.skip.bind (reads_sign hsign hc hfigures)

/-- The number of a significand without point and exponent. -/
def whole? : Option Number :=
  if s.exponent != 0 then (s.toBinary64 negative).map .real
  else if !negative then some (.integer s.value)
  else if s.value = 0 || negativeLimit < s.value then (s.toBinary64 true).map .real
  else some (.integer (-s.value))

/-- An integer is read as what its digits are worth, if that can be held. -/
theorem reads_integer (text : List Char) :
    (integer negative s).Reads text (whole? negative s) text := by
  rw [integer, whole?]
  split
  · exact Reads.real negative s text
  · split
    · exact Reads.pure _ text
    · split
      · exact Reads.real true s text
      · exact Reads.pure _ text

private theorem settles_decimals (h : IsDigits figures) (hscale : IsExponent scale) :
    (decimals negative s).Settles ('.' :: (figures ++ scale)) := by
  obtain ⟨c, later, rfl, hc⟩ := h.exists_cons
  rw [decimals]
  cases hscale with
  | none =>
    refine ⟨((s.fraction (c :: later)).toBinary64 negative).map .real, fun rest hends => ?_⟩
    rw [List.append_nil]
    refine Reads.skip.bind ((Reads.digits h.2 hends.endsDigits).bind ?_)
    refine (Reads.peek _).bind ?_
    split
    · rename_i hletter
      exact absurd rfl (hends _ hletter).2.2.1
    · rename_i hletter
      exact absurd rfl (hends _ hletter).2.2.2
    · exact Reads.real negative _ rest
  | digits hletter hsign hfigures =>
    obtain ⟨expected, hexpected⟩ := settles_exponent negative (s.fraction (c :: later))
      (.digits hletter hsign hfigures) (by simp)
    refine ⟨expected, fun rest hends => ?_⟩
    have hends' := (IsExponent.digits hletter hsign hfigures).endsDigits hends
    rw [List.cons_append, List.append_assoc]
    refine Reads.skip.bind ((Reads.digits h.2 hends').bind ?_)
    refine (Reads.peek _).bind ?_
    obtain rfl | rfl := hletter
    · exact hexpected rest hends
    · exact hexpected rest hends

/-- What follows the digits in front of the point. -/
def behindWhole : Reader Number := do
  match ← peek with
  | some '.' => decimals negative s
  | some 'e' | some 'E' => exponent negative s
  | _ => integer negative s

private theorem settles_behindWhole (hpart : IsFraction part) (hscale : IsExponent scale) :
    (behindWhole negative s).Settles (part ++ scale) := by
  cases hpart with
  | none =>
    cases hscale with
    | none =>
      refine ⟨whole? negative s, fun rest hends => (Reads.peek _).bind ?_⟩
      simp only [List.nil_append]
      split
      · rename_i hpoint
        exact absurd rfl (hends _ hpoint).2.1
      · rename_i hletter
        exact absurd rfl (hends _ hletter).2.2.1
      · rename_i hletter
        exact absurd rfl (hends _ hletter).2.2.2
      · exact reads_integer negative s rest
    | digits hletter hsign hfigures =>
      obtain ⟨expected, hexpected⟩ := settles_exponent negative s
        (.digits hletter hsign hfigures) (by simp)
      refine ⟨expected, fun rest hends => (Reads.peek _).bind ?_⟩
      obtain rfl | rfl := hletter
      · exact hexpected rest hends
      · exact hexpected rest hends
  | digits h =>
    obtain ⟨expected, hexpected⟩ := settles_decimals negative s h hscale
    exact ⟨expected, fun rest hends => (Reads.peek _).bind (hexpected rest hends)⟩

/-- The digits in front of the point are read as they are. -/
theorem reads_unsigned {whole : List Char} {expected : Option Number} (hwhole : IsWhole whole)
    (hends : EndsDigits text)
    (h : (behindWhole negative (Significand.whole {} whole)).Reads text expected rest) :
    (unsigned negative).Reads (whole ++ text) expected rest := by
  rw [unsigned]
  cases hwhole with
  | zero =>
    rw [List.cons_append, List.nil_append]
    refine (Reads.peek _).bind (Reads.skip.bind ((Reads.peek _).bind ?_))
    cases text with
    | nil => exact (Reads.pure _ _).bind h
    | cons d text =>
      have hd := hends d rfl
      simp only [List.head?_cons, hd, Bool.false_eq_true, if_false]
      exact (Reads.pure _ _).bind h
  | digits hdigits hzero =>
    obtain ⟨c, later, rfl, hc⟩ := hdigits.exists_cons
    refine (Reads.peek _).bind ?_
    have hnot : c ≠ '0' := fun heq => hzero (congrArg some heq)
    simp only [List.cons_append, List.head?_cons, hc, Bool.not_true, Bool.false_eq_true, if_false,
      if_neg hnot]
    exact (Reads.digits hdigits.2 hends).bind h

/-- A sign is read before the digits. -/
theorem reads_signed {sign whole : List Char} {expected : Option Number}
    (hsign : sign = [] ∨ sign = ['-']) (hwhole : IsWhole whole) (hends : EndsDigits text)
    (h : (behindWhole (sign == ['-']) (Significand.whole {} whole)).Reads text expected rest) :
    number.Reads (sign ++ (whole ++ text)) expected rest := by
  rw [number]
  obtain rfl | rfl := hsign
  · have hunsigned := reads_unsigned false hwhole hends h
    obtain ⟨c, later, rfl, hc⟩ := hwhole.exists_cons
    refine (Reads.peek _).bind ?_
    split
    · rename_i hminus
      cases hminus
      cases hc
    · exact hunsigned
  · have hunsigned := reads_unsigned true hwhole hends h
    exact (Reads.peek _).bind (Reads.skip.bind hunsigned)

private theorem settles_number {numeral : List Char} (h : IsNumeral numeral) :
    number.Settles numeral := by
  cases h with
  | @mk sign whole part scale hsign hwhole hpart hscale =>
    obtain ⟨expected, hexpected⟩ :=
      settles_behindWhole (sign == ['-']) (Significand.whole {} whole) hpart hscale
    refine ⟨expected, fun rest hends => ?_⟩
    simp only [List.append_assoc]
    refine reads_signed hsign hwhole (hpart.endsDigits hscale hends) ?_
    rw [← List.append_assoc]
    exact hexpected rest hends

/-- A numeral is read as the number that it stands for, whatever follows it. -/
theorem reads_number {numeral : List Char} (h : IsNumeral numeral) (hends : EndsNumber rest) :
    number.Reads (numeral ++ rest) (numberOf? numeral) rest := by
  obtain ⟨expected, hexpected⟩ := settles_number h
  have halone := hexpected [] (fun _ => nofun)
  rw [List.append_nil] at halone
  rw [numberOf?, halone.found?_eq]
  exact hexpected rest hends

/-- The sign of an exponent is passed over. -/
theorem skips_sign {next : Reader Unit} {sign : List Char} {c : Char}
    (hsign : sign = [] ∨ sign = ['+'] ∨ sign = ['-']) (hc : c.isDigit = true)
    (h : next.Reads (c :: text) (some ()) rest) :
    (do
      match ← peek with
      | some '+' | some '-' => skip
      | _ => pure ()
      next : Reader Unit).Reads (sign ++ c :: text) (some ()) rest := by
  refine (Reads.peek _).bind ?_
  obtain rfl | rfl | rfl := hsign
  · simp only [List.nil_append, List.head?_cons]
    split
    · rename_i hplus
      cases hplus
      cases hc
    · rename_i hminus
      cases hminus
      cases hc
    · exact h
  · exact Reads.skip.bind h
  · exact Reads.skip.bind h

private theorem skips_exponent (h : IsExponent scale) (hsome : scale ≠ [])
    (hends : EndsNumber rest) :
    skipExponent.Reads (scale ++ rest) (some ()) rest := by
  cases h with
  | none => exact absurd rfl hsome
  | digits hletter hsign h =>
    obtain ⟨c, later, rfl, hc⟩ := h.exists_cons
    rw [skipExponent, List.cons_append, List.append_assoc]
    refine Reads.skip.bind (skips_sign hsign hc ?_)
    exact (Reads.digits h.2 hends.endsDigits).bind (.pure () rest)

/-- Behind digits, an exponent is passed over if there is one. -/
theorem skips_scale (h : IsExponent scale) (hends : EndsNumber rest) :
    (do
      match ← peek with
      | some 'e' | some 'E' => skipExponent
      | _ => pure () : Reader Unit).Reads (scale ++ rest) (some ()) rest := by
  refine (Reads.peek _).bind ?_
  cases h with
  | none =>
    rw [List.nil_append]
    split
    · rename_i hletter
      exact absurd rfl (hends _ hletter).2.2.1
    · rename_i hletter
      exact absurd rfl (hends _ hletter).2.2.2
    · exact .pure () rest
  | digits hletter hsign h =>
    have hskip := skips_exponent (.digits hletter hsign h) (by simp) hends
    obtain rfl | rfl := hletter
    · exact hskip
    · exact hskip

private theorem skips_decimals (h : IsDigits figures) (hscale : IsExponent scale)
    (hends : EndsNumber rest) :
    skipDecimals.Reads ('.' :: (figures ++ (scale ++ rest))) (some ()) rest := by
  obtain ⟨c, later, rfl, hc⟩ := h.exists_cons
  rw [skipDecimals]
  refine Reads.skip.bind ((Reads.digits h.2 (hscale.endsDigits hends)).bind ?_)
  exact skips_scale hscale hends

/-- What follows the digits in front of the point is passed over. -/
theorem skips_behindWhole (hpart : IsFraction part) (hscale : IsExponent scale)
    (hends : EndsNumber rest) :
    (do
      match ← peek with
      | some '.' => skipDecimals
      | some 'e' | some 'E' => skipExponent
      | _ => pure () : Reader Unit).Reads (part ++ (scale ++ rest)) (some ()) rest := by
  cases hpart with
  | none =>
    refine (Reads.peek _).bind ?_
    cases hscale with
    | none =>
      simp only [List.nil_append]
      split
      · rename_i hpoint
        exact absurd rfl (hends _ hpoint).2.1
      · rename_i hletter
        exact absurd rfl (hends _ hletter).2.2.1
      · rename_i hletter
        exact absurd rfl (hends _ hletter).2.2.2
      · exact .pure () rest
    | digits hletter hsign h =>
      have hskip := skips_exponent (.digits hletter hsign h) (by simp) hends
      obtain rfl | rfl := hletter
      · exact hskip
      · exact hskip
  | digits h => exact (Reads.peek _).bind (skips_decimals h hscale hends)

/-- A number that is skipped may have a fraction and an exponent. -/
theorem skips_number {whole : List Char} (hwhole : IsWhole whole) (hpart : IsFraction part)
    (hscale : IsExponent scale) (hends : EndsNumber rest) :
    skipNumber.Reads (whole ++ (part ++ (scale ++ rest))) (some ()) rest := by
  have hdigits := hpart.endsDigits hscale hends
  have hbehind := skips_behindWhole hpart hscale hends
  generalize part ++ (scale ++ rest) = text at hdigits hbehind
  rw [skipNumber]
  cases hwhole with
  | zero =>
    rw [List.cons_append, List.nil_append]
    refine (Reads.peek _).bind (Reads.skip.bind ((Reads.peek _).bind ?_))
    cases text with
    | nil => exact hbehind
    | cons d text =>
      simp only [List.head?_cons, hdigits d rfl, Bool.false_eq_true, if_false]
      exact hbehind
  | digits h hzero =>
    obtain ⟨c, later, rfl, hc⟩ := h.exists_cons
    refine (Reads.peek _).bind ?_
    split
    · rename_i heq
      exact absurd heq hzero
    · exact (Reads.digits h.2 hdigits).bind hbehind

end Reader

end PollAudit.Json
