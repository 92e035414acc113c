import Mathlib.Data.List.TakeWhile
import PollAudit.Proofs.Text.Line

namespace PollAudit.Text.Rendition

/-- The character with which the control sequences of a terminal begin. -/
def escape : Char := '\x1b'

/-- The characters of which the parameters of a control sequence consist. -/
def isParameter (c : Char) : Bool := '0' ≤ c && c ≤ '?'

/-- What stands behind a rendition sequence, if the text begins with one. -/
def afterSequence? : List Char → Option (List Char)
  | '\x1b' :: '[' :: inner =>
    match inner.dropWhile isParameter with
    | 'm' :: rest => some rest
    | _ => none
  | _ => none

private theorem length_afterSequence?_lt {text rest : List Char}
    (h : afterSequence? text = some rest) :
    rest.length < text.length := by
  unfold afterSequence? at h
  split at h
  · rename_i inner
    split at h
    · rename_i hdrop
      obtain rfl := Option.some.inj h
      have hlength := (List.dropWhile_suffix isParameter (l := inner)).length_le
      rw [hdrop, List.length_cons] at hlength
      simp only [List.length_cons]
      omega
    · cases h
  · cases h

/-- The characters of a text that belong to no rendition sequence. -/
def bare : List Char → List Char
  | [] => []
  | c :: text =>
    match _hafter : afterSequence? (c :: text) with
    | some rest => bare rest
    | none => c :: bare text
termination_by text => text.length
decreasing_by
  · exact length_afterSequence?_lt _hafter
  · exact Nat.lt_succ_self _

/-- A text without its rendition sequences. -/
def strip (text : String) : String := String.ofList (bare text.toList)

/-- Parameters, of which there may be none, end with the sequence, and any other use of the escape
character is kept. -/
example : bare "\x1b[1;31mam\x1b[m[0m\x1b[1x".toList = "am[0m\x1b[1x".toList := by
  decide +kernel

private theorem bare_cons_of_ne {c : Char} (hc : c ≠ escape) (text : List Char) :
    bare (c :: text) = c :: bare text := by
  have hnone : afterSequence? (c :: text) = none := by
    unfold afterSequence?
    split
    · rename_i heq
      exact absurd (List.cons.inj heq).1 hc
    · rfl
  rw [bare]
  split
  · rename_i heq
    rw [hnone] at heq
    cases heq
  · rfl

private theorem bare_sequence {parameters : List Char} (h : ∀ c ∈ parameters, isParameter c = true)
    (text : List Char) : bare (escape :: '[' :: (parameters ++ 'm' :: text)) = bare text := by
  have hdrop : (parameters ++ 'm' :: text).dropWhile isParameter = 'm' :: text := by
    rw [List.dropWhile_append_of_pos h]
    rfl
  have hsome : afterSequence? (escape :: '[' :: (parameters ++ 'm' :: text)) = some text := by
    simp only [afterSequence?, escape, hdrop]
  rw [bare]
  split
  · rename_i heq
    rw [hsome] at heq
    rw [Option.some.inj heq]
  · rename_i heq
    rw [hsome] at heq
    cases heq

/-- A number has no escape. -/
theorem escape_not_mem_toString_nat (n : Nat) : escape ∉ (toString n).toList :=
  fun hmem => absurd (Text.isDigit_of_mem_toString_nat hmem) (by decide)

/-- A flag has no escape. -/
theorem escape_not_mem_toString_bool (b : Bool) : escape ∉ (toString b).toList := by
  cases b <;> decide

/-- Pieces without an escape make a text without one. -/
theorem escape_not_mem_append {first second : String} (hfirst : escape ∉ first.toList)
    (hsecond : escape ∉ second.toList) : escape ∉ (first ++ second).toList := by
  rw [String.toList_append, List.mem_append]
  exact fun hmem => hmem.elim hfirst hsecond

/-- The first text is the second one with rendition sequences put in. -/
inductive Styles : List Char → List Char → Prop
  | nil : Styles [] []
  | char {c : Char} {styled plain : List Char} (hc : c ≠ escape) (h : Styles styled plain) :
    Styles (c :: styled) (c :: plain)
  | sequence {parameters styled plain : List Char} (hc : ∀ c ∈ parameters, isParameter c = true)
    (h : Styles styled plain) : Styles (escape :: '[' :: (parameters ++ 'm' :: styled)) plain

namespace Styles

variable {styled plain styled' plain' : List Char}

/-- Without its sequences a styled text is the plain one. -/
theorem bare_eq (h : Styles styled plain) : bare styled = plain := by
  induction h with
  | nil => rw [bare]
  | char hc _ ih => rw [bare_cons_of_ne hc, ih]
  | sequence hparameters _ ih => rw [bare_sequence hparameters, ih]

/-- A plain text has no escape. -/
theorem escape_not_mem (h : Styles styled plain) : escape ∉ plain := by
  induction h with
  | nil => exact List.not_mem_nil
  | char hc _ ih => exact List.not_mem_cons_of_ne_of_not_mem hc.symm ih
  | sequence _ _ ih => exact ih

/-- Styles can be put one behind the other. -/
theorem append (h : Styles styled plain) (h' : Styles styled' plain') :
    Styles (styled ++ styled') (plain ++ plain') := by
  induction h with
  | nil => exact h'
  | char hc _ ih => exact .char hc ih
  | sequence hparameters _ ih =>
    rw [List.cons_append, List.cons_append, List.append_assoc, List.cons_append]
    exact .sequence hparameters ih

/-- A text without control sequences needs nothing put in. -/
theorem refl (h : escape ∉ plain) : Styles plain plain := by
  induction plain with
  | nil => exact .nil
  | cons c plain ih =>
    obtain ⟨hc, hplain⟩ := List.ne_and_not_mem_of_not_mem_cons h
    exact .char (Ne.symm hc) (ih hplain)

/-- Lines can be styled one by one. -/
theorem intercalate {styledLines plainLines : List String} {separator : String}
    (hseparator : escape ∉ separator.toList)
    (h : List.Forall₂ (fun a b => Styles a.toList b.toList) styledLines plainLines) :
    Styles (separator.intercalate styledLines).toList
      (separator.intercalate plainLines).toList := by
  induction h with
  | nil => exact .nil
  | cons hfirst hlater ih =>
    cases hlater with
    | nil =>
      rw [String.intercalate_singleton, String.intercalate_singleton]
      exact hfirst
    | cons _ _ =>
      rw [String.intercalate_cons_cons, String.intercalate_cons_cons]
      simp only [String.toList_append]
      exact (hfirst.append (.refl hseparator)).append ih

end Styles

end PollAudit.Text.Rendition
