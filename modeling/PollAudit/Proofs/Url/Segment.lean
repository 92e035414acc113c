import Mathlib.Data.List.Forall2
import Mathlib.Data.List.Induction
import PollAudit.Proofs.Url.Percent
import PollAudit.Url.Extend

namespace PollAudit.Url

open Text

/-! ## Dots -/

section Dots

variable {set : EscapeSet} {text rest : List Char}

/-- The first byte of an escape is that of the character escaped. -/
theorem utf8EncodeChar_eq_cons {c : Char} {b : UInt8} {tail : List UInt8}
    (h : String.utf8EncodeChar c = b :: tail) (hascii : b ≤ 0x7f) :
    c = Char.ofNat b.toNat := by
  have hdecode := Utf8.decode?_encode [c]
  rw [Utf8.encode, List.flatMap_singleton, h] at hdecode
  have hmem := Utf8.mem_of_decode? hdecode List.mem_cons_self hascii
  exact (List.mem_singleton.mp hmem).symm

private theorem dropDot?_cons_of_ne {c : Char} (hdot : c ≠ '.') (hpercent : c ≠ '%') :
    Step.dropDot? (c :: rest) = none := by
  rw [Step.dropDot?.eq_def]
  split
  · rename_i heq
    exact absurd (List.cons.inj heq).1 hdot
  · rename_i heq
    exact absurd (List.cons.inj heq).1 hpercent
  · rename_i heq
    exact absurd (List.cons.inj heq).1 hpercent
  · rfl

private theorem upperHex_dot : ∀ high < 16, ∀ low < 16, upperHex high = '2' →
    (upperHex low = 'e' ∨ upperHex low = 'E') → 16 * high + low = 0x2e := by
  decide

private theorem dropDot?_escapeByte {b : UInt8} (hb : b ≠ 0x2e) :
    Step.dropDot? (escapeByte b ++ rest) = none := by
  have hlt := b.toNat_lt
  have hdot (hhigh : upperHex (b.toNat / 16) = '2')
      (hlow : upperHex (b.toNat % 16) = 'e' ∨ upperHex (b.toNat % 16) = 'E') : False := by
    have hvalue := upperHex_dot _ (by omega) _ (by omega) hhigh hlow
    refine hb (UInt8.toNat_inj.mp ?_)
    change b.toNat = 0x2e
    omega
  rw [escapeByte, List.cons_append, List.cons_append, List.cons_append, Step.dropDot?.eq_def]
  split
  · rename_i heq
    cases (List.cons.inj heq).1
  · rename_i heq
    simp only [List.cons.injEq, true_and] at heq
    exact absurd (.inl heq.2.1) (hdot heq.1)
  · rename_i heq
    simp only [List.cons.injEq, true_and] at heq
    exact absurd (.inr heq.2.1) (hdot heq.1)
  · rfl

/-- Only a dot is read as a dot in a text escaped with a set that holds the percent sign. -/
theorem dropDot?_escape (hpercent : set '%' = true) (hdot : set '.' = false) (text : List Char) :
    Step.dropDot? (escape set text) =
      if text.head? = some '.' then some (escape set text.tail) else none := by
  cases text with
  | nil => rfl
  | cons c text =>
    change Step.dropDot? (escapeChar set c ++ escape set text) = _
    by_cases hc : c = '.'
    · rw [hc, escapeChar, hdot, if_neg Bool.false_ne_true]
      rfl
    · have hhead : (c :: text).head? ≠ some '.' := fun heq => hc (Option.some.inj heq)
      rw [if_neg hhead, escapeChar]
      split
      · obtain ⟨b, tail, hbytes, _⟩ := Utf8.first_utf8EncodeChar c []
        have hb : b ≠ 0x2e := by
          rintro rfl
          exact hc (utf8EncodeChar_eq_cons hbytes (by decide))
        rw [hbytes, List.flatMap_cons, List.append_assoc]
        exact dropDot?_escapeByte hb
      · rename_i hset
        have hne : c ≠ '%' := fun heq => hset (heq ▸ hpercent)
        exact dropDot?_cons_of_ne hc hne

private theorem escapeChar_ne_nil (c : Char) : escapeChar set c ≠ [] := by
  rw [escapeChar]
  split
  · obtain ⟨b, tail, hbytes, _⟩ := Utf8.first_utf8EncodeChar c []
    rw [hbytes]
    simp [escapeByte]
  · exact List.cons_ne_nil _ _

private theorem escape_eq_nil_iff {text : List Char} : escape set text = [] ↔ text = [] := by
  cases text with
  | nil => simp [escape]
  | cons c text => simp [escape, escapeChar_ne_nil]

/-- An escaped text leads to no segment if it consists of one dot or two. -/
theorem ofText_escape (hpercent : set '%' = true) (hdot : set '.' = false) (text : List Char) :
    Step.ofText (escape set text) =
      if text = ['.'] then .here
      else if text = ['.', '.'] then .up
      else .into (escape set text) := by
  rw [Step.ofText.eq_def, dropDot?_escape hpercent hdot]
  obtain _ | ⟨c, rest⟩ := text
  · rfl
  by_cases hc : c = '.'
  · subst hc
    rw [List.head?_cons, if_pos rfl, List.tail_cons]
    obtain _ | ⟨d, rest⟩ := rest
    · rfl
    split
    · rename_i heq
      cases heq
    · rename_i heq
      exact absurd (escape_eq_nil_iff.mp (Option.some.inj heq)) (List.cons_ne_nil d rest)
    · rename_i heq
      rw [← Option.some.inj heq, dropDot?_escape hpercent hdot]
      by_cases hd : d = '.'
      · subst hd
        cases rest with
        | nil => rfl
        | cons e rest =>
          have hne : escape set (e :: rest) ≠ [] := by
            rw [ne_eq, escape_eq_nil_iff]
            exact List.cons_ne_nil e rest
          simp [hne]
      · simp [hd]
  · simp [hc]

/-- A segment stays, goes up or goes into a name. -/
theorem ofText_cases (text : List Char) : Step.ofText text = .here ∨ Step.ofText text = .up ∨
    Step.ofText text = .into text := by
  rw [Step.ofText]
  split
  · exact .inr (.inr rfl)
  · exact .inl rfl
  · split
    · exact .inr (.inl rfl)
    · exact .inr (.inr rfl)

end Dots

/-! ## Names as segments -/

namespace Path

/-- A name that can stand in a path: it means no place relative to another one, and all of its
characters count. -/
def IsName (name : String) : Prop :=
  name ≠ "." ∧ name ≠ ".." ∧ ∀ c ∈ name.toList, isIgnored c = false

instance (name : String) : Decidable (IsName name) :=
  decidable_of_iff ((name != "." && name != ".." && name.toList.all (!isIgnored ·)) = true) (by
    simp [IsName, and_assoc])

/-- A segment is one piece of a written path, and is read as the name. -/
structure Spells (kind : Kind) (segment name : String) : Prop where
  whole : ∀ c ∈ segment.toList, kind.isSlash c = false ∧ endsPath c = false
  reads : Utf8.decode? (unescape segment.toList) = some name.toList

variable {kind : Kind} {path front : List String} {name segment : String}

private theorem nameSet_percent (kind : Kind) : nameSet kind '%' = true := by
  cases kind <;> rfl

private theorem nameSet_dot (kind : Kind) : nameSet kind '.' = false := by
  cases kind <;> rfl

/-- A character at which a segment ends is escaped, and no escape is made of it. -/
theorem nameSet_of_ends {c : Char} (h : kind.isSlash c = true ∨ endsPath c = true) :
    nameSet kind c = true ∧ c ≠ '%' ∧ ∀ digit < 16, c ≠ upperHex digit := by
  simp only [Kind.isSlash, endsPath, Bool.or_eq_true, Bool.and_eq_true, beq_iff_eq] at h
  obtain (rfl | ⟨hspecial, rfl⟩) | rfl | rfl := h
  · exact ⟨by cases kind <;> rfl, by decide, by decide⟩
  · rw [nameSet, if_pos hspecial]
    exact ⟨rfl, by decide, by decide⟩
  · exact ⟨by cases kind <;> rfl, by decide, by decide⟩
  · exact ⟨by cases kind <;> rfl, by decide, by decide⟩

/-- A text escaped for a path is one piece of it. -/
theorem whole_segmentOf (kind : Kind) (name : String) :
    ∀ c ∈ segmentOf kind name, kind.isSlash c = false ∧ endsPath c = false := by
  intro c hc
  by_contra hends
  have hends : kind.isSlash c = true ∨ endsPath c = true := by
    simpa only [not_and_or, Bool.not_eq_false] using hends
  obtain ⟨hset, hpercent, hhex⟩ := nameSet_of_ends hends
  obtain hfree | hsign | ⟨digit, hdigit, heq⟩ := mem_escape hc
  · rw [hset] at hfree
    cases hfree
  · exact hpercent hsign
  · exact hhex digit hdigit heq

/-- A segment can be read back but for the characters that are dropped from it. -/
theorem decode?_segmentOf (kind : Kind) (name : String) :
    Utf8.decode? (unescape (segmentOf kind name)) = some (significant name.toList) := by
  rw [segmentOf, unescape_escape (nameSet_percent kind), Utf8.decode?_encode]

private theorem IsName.significant (h : IsName name) : significant name.toList = name.toList := by
  obtain ⟨_, _, hcount⟩ := h
  refine List.filter_eq_self.mpr fun c hc => ?_
  rw [hcount c hc]
  rfl

/-- A text that is no dots and loses no characters is a name. -/
theorem isName_of_significant (hdot : name ≠ ".") (hdots : name ≠ "..")
    (h : Url.significant name.toList = name.toList) : IsName name := by
  refine ⟨hdot, hdots, fun c hc => ?_⟩
  have hcount := List.filter_eq_self.mp h c hc
  simpa using hcount

/-- The segment made of a name spells this name. -/
theorem spells_segmentOf (kind : Kind) (h : IsName name) :
    Spells kind (String.ofList (segmentOf kind name)) name := by
  refine ⟨?_, ?_⟩
  · rw [String.toList_ofList]
    exact whole_segmentOf kind name
  · rw [String.toList_ofList, decode?_segmentOf, h.significant]

/-- The segment made of a name leads into it. -/
theorem ofText_segmentOf (h : IsName name) :
    Step.ofText (segmentOf kind name) = .into (segmentOf kind name) := by
  have hsignificant := h.significant
  obtain ⟨hdot, hdots, _⟩ := h
  rw [segmentOf, hsignificant, ofText_escape (nameSet_percent kind) (nameSet_dot kind), if_neg,
    if_neg]
  · exact fun heq => hdots (String.toList_inj.mp heq)
  · exact fun heq => hdot (String.toList_inj.mp heq)

/-- A segment more adds a slash and its text. -/
theorem text_append_singleton (front : List String) (segment : String) :
    (Path.segments (front ++ [segment])).text =
      (Path.segments front).text ++ ("/" ++ segment) := by
  simp [Path.text]

end Path

end PollAudit.Url
