import Mathlib.Data.List.Nodup
import PollAudit.Json.Printer
import PollAudit.Proofs.Json.Value

namespace PollAudit.Json

variable {rest : List Char}

section Numeral

open Reader

/-- Digits that 64 bits hold are taken in as they are. -/
theorem whole_eq (digits : List Char) (value : Nat)
    (h : Nat.ofDigitChars 10 digits value < 18446744073709551616) :
    Significand.whole { value } digits = { value := Nat.ofDigitChars 10 digits value } := by
  induction digits generalizing value with
  | nil => rfl
  | cons c digits ih =>
    rw [Nat.ofDigitChars_cons] at h ⊢
    have hnext : 10 * value + digitValue c < UInt64.size := by
      have hpower := Nat.pow_pos (n := digits.length) (by decide : 0 < 10)
      have hle := Nat.le_mul_of_pos_left (10 * value + digitValue c) hpower
      rw [Nat.ofDigitChars_eq_ofDigitChars_zero] at h
      exact Nat.lt_of_le_of_lt (Nat.le_trans hle (Nat.le_add_right _ _)) h
    rw [Significand.whole, if_pos hnext]
    exact ih _ h

private theorem isDigits_toDigits (n : Nat) : IsDigits (Nat.toDigits 10 n) :=
  ⟨Nat.toDigits_ne_nil, fun _ hc => Nat.isDigit_of_mem_toDigits (by decide) (by decide) hc⟩

/-- A number above zero has no leading zero. -/
theorem head?_toDigits_ne {n : Nat} (h : 0 < n) : (Nat.toDigits 10 n).head? ≠ some '0' := by
  induction n using Nat.strongRecOn with
  | ind n ih =>
    by_cases hlt : n < 10
    · rw [Nat.toDigits_of_lt_base hlt]
      have hdigit : ∀ d < 10, 0 < d → [Nat.digitChar d].head? ≠ some '0' := by decide
      exact hdigit n hlt h
    · have hfront := ih (n / 10) (by omega) (by omega)
      rw [Nat.toDigits_of_base_le (by decide) (by omega)]
      obtain ⟨c, later, hcons⟩ := List.exists_cons_of_ne_nil (Nat.toDigits_ne_nil (n := n / 10) (b := 10))
      rw [hcons] at hfront ⊢
      exact hfront

private theorem isWhole_toDigits (n : Nat) : IsWhole (Nat.toDigits 10 n) := by
  cases n with
  | zero =>
    rw [Nat.toDigits_zero]
    exact .zero
  | succ n => exact .digits (isDigits_toDigits _) (head?_toDigits_ne n.succ_pos)

/-- A numeral without point and exponent stands for its digits. -/
theorem numberOf?_digits {sign : List Char} (hsign : sign = [] ∨ sign = ['-']) {n : Nat}
    (h : n < 18446744073709551616) :
    numberOf? (sign ++ Nat.toDigits 10 n) = whole? (sign == ['-']) { value := n } := by
  have hwhole : Significand.whole {} (Nat.toDigits 10 n) = { value := n } := by
    have heq := whole_eq (Nat.toDigits 10 n) 0
    rw [Nat.ofDigitChars_ten_toDigits] at heq
    exact heq h
  have hreads : number.Reads (sign ++ (Nat.toDigits 10 n ++ [])) (whole? (sign == ['-']) { value := n })
      [] := by
    refine reads_signed hsign (isWhole_toDigits n) (fun _ => nofun) ?_
    rw [hwhole]
    exact (Reads.peek []).bind (reads_integer _ _ [])
  rw [List.append_nil] at hreads
  exact hreads.found?_eq

private theorem whole?_natural (n : Nat) : whole? false { value := n } = some (.integer n) := rfl

private theorem whole?_negative {n : Nat} (hzero : n ≠ 0) (hlimit : n ≤ negativeLimit) :
    whole? true { value := n } = some (.integer (-n)) := by
  have hinteger : ¬ (decide (n = 0) || decide (negativeLimit < n)) = true := by
    rw [Bool.or_eq_true, decide_eq_true_eq, decide_eq_true_eq]
    omega
  exact if_neg hinteger

/-- An integer of 64 bits, with a sign or without. -/
def IsIntegral (n : Int) : Prop := -9223372036854775808 ≤ n ∧ n < 18446744073709551616

private theorem print_integer (n : Int) :
    (Number.integer n).print = (if n < 0 then ['-'] else []) ++ Nat.toDigits 10 n.natAbs := by
  rw [Number.print, Int.toString_eq_repr, Int.repr_eq_if]
  split
  · have habs : n.natAbs = n.toNat := by omega
    rw [if_neg (by omega), Nat.toList_repr, habs, List.nil_append]
  · have habs : n.natAbs = (-n).toNat := by omega
    rw [if_pos (by omega), String.toList_append, Nat.toList_repr, habs]
    rfl

private theorem isNumeral_print (n : Int) : IsNumeral (Number.integer n).print := by
  have hsign : (if n < 0 then ['-'] else []) = [] ∨ (if n < 0 then ['-'] else []) = ['-'] := by
    split
    · exact .inr rfl
    · exact .inl rfl
  have hnumeral := IsNumeral.mk hsign (isWhole_toDigits n.natAbs) .none .none
  rwa [List.append_nil, List.append_nil, ← print_integer] at hnumeral

/-- An integer is read back from its digits. -/
theorem numberOf?_print {n : Int} (h : IsIntegral n) :
    numberOf? (Number.integer n).print = some (.integer n) := by
  obtain ⟨hleast, hgreatest⟩ := h
  rw [print_integer]
  split
  · have hlimit : n.natAbs ≤ negativeLimit := by
      rw [negativeLimit]
      omega
    have habs : -(n.natAbs : Int) = n := by omega
    rw [numberOf?_digits (.inr rfl) (by omega)]
    exact (whole?_negative (by omega) hlimit).trans (by rw [habs])
  · have habs : (n.natAbs : Int) = n := by omega
    rw [numberOf?_digits (.inl rfl) (by omega)]
    exact (whole?_natural n.natAbs).trans (by rw [habs])

end Numeral

section Text

private theorem hexValue?_hexDigit (n : Nat) : hexValue? (hexDigit n) = some (n % 16) := by
  have hdigits : ∀ d < 16, hexValue? (Nat.digitChar d) = some d := by decide
  exact hdigits (n % 16) (Nat.mod_lt n (by decide))

private theorem quad_control {n : Nat} (h : n < 32) (text : List Char) :
    Quad ('0' :: '0' :: hexDigit (n / 16) :: hexDigit n :: text) n text := by
  have hzero : hexValue? '0' = some 0 := rfl
  have hvalue : ((0 * 16 + 0) * 16 + n / 16 % 16) * 16 + n % 16 = n := by omega
  have hquad : Quad ('0' :: '0' :: hexDigit (n / 16) :: hexDigit n :: text)
      (((0 * 16 + 0) * 16 + n / 16 % 16) * 16 + n % 16) text :=
    .mk hzero hzero (hexValue?_hexDigit (n / 16)) (hexValue?_hexDigit n)
  rwa [hvalue] at hquad

/-- A character stands for itself as it is printed. -/
theorem letters_escaped (c : Char) {text s : List Char} (h : Letters text (some s) rest) :
    Letters (escaped c ++ text) (some (c :: s)) rest := by
  have hshort {d : Char} (hd : shortEscape? d = some c) :
      Letters ('\\' :: d :: text) (some (c :: s)) rest := .short hd h
  have hcode {n : Nat} (hn : c.toNat = n) : Char.ofNat n = c := hn ▸ Char.ofNat_toNat c
  unfold escaped
  split
  · exact hshort (congrArg some (Eq.symm ‹_›))
  split
  · exact hshort (congrArg some (Eq.symm ‹_›))
  split
  · exact hshort (congrArg some (hcode ‹_›))
  split
  · exact hshort (congrArg some (hcode ‹_›))
  split
  · exact hshort (congrArg some (Eq.symm ‹_›))
  split
  · exact hshort (congrArg some (Eq.symm ‹_›))
  split
  · exact hshort (congrArg some (Eq.symm ‹_›))
  split
  · have hunit := Letters.unit (quad_control ‹c.toNat < 32› text) (by rw [IsLeading]; omega)
      (by rw [IsTrailing]; omega) h
    rw [Char.ofNat_toNat] at hunit
    exact hunit
  · exact .plain ‹_› ‹_› (Nat.not_lt.mp ‹_›) h

private theorem letters_quoted (s rest : List Char) :
    Letters (s.flatMap escaped ++ '"' :: rest) (some s) rest := by
  induction s with
  | nil => exact .close
  | cons c s ih =>
    rw [List.flatMap_cons, List.append_assoc]
    exact letters_escaped c ih

/-- A quoted text says this text. -/
theorem says_quoted (s : String) (rest : List Char) : Says (quoted s ++ rest) (.text (some s)) rest := by
  have hdoc := Says.text (letters_quoted s.toList rest)
  rw [Option.map_some, String.ofList_toList] at hdoc
  simpa [quoted] using hdoc

/-- A quoted key and a colon in front of a document make a member. -/
theorem entry_quoted (key : String) {text : List Char} {document : Document}
    (h : Says text document rest) :
    Entry Says (quoted key ++ ':' :: text) (some key, document) rest := by
  have hentry := Entry.mk (letters_quoted key.toList (':' :: text)) (.none _) (.none _) h
  rw [Option.map_some, String.ofList_toList] at hentry
  simpa [quoted] using hentry

end Text

section Separated

variable {β γ : Type} {Item : List Char → γ → List Char → Prop} {part : β → List Char}
  {document : β → γ} {close : Char} {items : List β}
  (h : ∀ b ∈ items, ∀ rest, EndsNumber rest → Item (part b ++ rest) (document b) rest)
  (hclose : ∀ rest, EndsNumber (close :: rest))

private theorem separated_cons (first : List Char) (later : List (List Char)) :
    separated (first :: later) = first ++ later.flatMap (',' :: ·) := by
  induction later generalizing first with
  | nil => simp [separated]
  | cons next later ih => simp [separated, ih]

private theorem endsNumber_comma (text : List Char) : EndsNumber (',' :: text) := by
  rintro _ ⟨⟩
  decide

include h hclose

/-- Behind an item stands a comma or the closing bracket, neither of which a number goes on with. -/
theorem later_separated (rest : List Char) :
    EndsNumber ((items.map part).flatMap (',' :: ·) ++ close :: rest) ∧
      Later close Item (items.map document) ((items.map part).flatMap (',' :: ·) ++ close :: rest)
        rest := by
  induction items with
  | nil => exact ⟨hclose rest, .close (.none _)⟩
  | cons b items ih =>
    rw [List.forall_mem_cons] at h
    obtain ⟨hends, hlater⟩ := ih h.2
    simp only [List.map_cons, List.flatMap_cons, List.cons_append, List.append_assoc]
    exact ⟨endsNumber_comma _, .comma (.none _) (.none _) (h.1 _ hends) hlater⟩

private theorem sequence_separated (rest : List Char) :
    Sequence close Item (items.map document) (separated (items.map part) ++ close :: rest) rest := by
  cases items with
  | nil => exact .empty (.none _)
  | cons b items =>
    rw [List.forall_mem_cons] at h
    obtain ⟨hends, hlater⟩ := later_separated h.2 hclose rest
    rw [List.map_cons, List.map_cons, separated_cons, List.append_assoc]
    exact .items (.none _) (h.1 _ hends) hlater

end Separated

mutual

/-- What the text of a value says. -/
def Value.document : Value → Document
  | .null => .null
  | .boolean b => .boolean b
  | .number n => .number (some n)
  | .text s => .text (some s)
  | .list items => .list (documents items)
  | .object members => .object (entries members)

def documents : List Value → List Document
  | [] => []
  | item :: rest => item.document :: documents rest

def entries : List (String × Value) → List (Option String × Document)
  | [] => []
  | (key, value) :: rest => (some key, value.document) :: entries rest

end

/-- The documents of a list are those of its items. -/
theorem documents_eq_map (items : List Value) : documents items = items.map Value.document := by
  induction items with
  | nil => rfl
  | cons item items ih => rw [documents, ih, List.map_cons]

/-- The documents of an object are those of its members, under the same keys. -/
theorem entries_eq_map (members : Members) :
    entries members = members.map fun member => (some member.1, member.2.document) := by
  induction members with
  | nil => rfl
  | cons member members ih => rw [entries, ih, List.map_cons]

theorem entries_append (members members' : Members) :
    entries (members ++ members') = entries members ++ entries members' := by
  simp only [entries_eq_map, List.map_append]

private theorem printItems_eq_map (items : List Value) :
    printItems items = items.map Value.print := by
  induction items with
  | nil => rfl
  | cons item items ih => rw [printItems, ih, List.map_cons]

private theorem printMembers_eq_map (members : Members) :
    printMembers members = members.map fun member => quoted member.1 ++ ':' :: member.2.print := by
  induction members with
  | nil => rfl
  | cons member members ih => rw [printMembers, ih, List.map_cons]

/-- All numbers in the value are integers of 64 bits. -/
inductive Value.IsIntegral : Value → Prop
  | null : IsIntegral .null
  | boolean (b : Bool) : IsIntegral (.boolean b)
  | integer {n : Int} (h : Json.IsIntegral n) : IsIntegral (.number (.integer n))
  | text (s : String) : IsIntegral (.text s)
  | list {items : List Value} (h : ∀ item ∈ items, IsIntegral item) : IsIntegral (.list items)
  | object {members : Members} (h : ∀ member ∈ members, IsIntegral member.2) :
    IsIntegral (.object members)

/-- The text of a value says what the value is. -/
theorem Value.IsIntegral.says_print {value : Value} (h : value.IsIntegral) (hends : EndsNumber rest) :
    Says (value.print ++ rest) value.document rest := by
  induction h generalizing rest with
  | null => exact .null
  | boolean b => cases b with
    | false => exact .no
    | true => exact .yes
  | @integer n h =>
    have hdoc := Says.number (isNumeral_print n) hends
    rw [numberOf?_print h] at hdoc
    exact hdoc
  | text s => exact says_quoted s rest
  | list _ ih =>
    rw [print, document, printItems_eq_map, documents_eq_map, List.cons_append, List.append_assoc]
    refine .list (sequence_separated (fun item hitem rest hends => ih item hitem hends) ?_ rest)
    rintro _ _ ⟨⟩
    decide
  | object _ ih =>
    rw [print, document, printMembers_eq_map, entries_eq_map, List.cons_append, List.append_assoc]
    refine .object (sequence_separated (fun member hmember rest hends => ?_) ?_ rest)
    · have hentry := entry_quoted member.1 (ih member hmember hends)
      simpa using hentry
    · rintro _ _ ⟨⟩
      decide

/-- Objects without fractions can be joined. -/
theorem Value.isIntegral_append {members later : Members} (h : (object members).IsIntegral)
    (h' : (object later).IsIntegral) : (object (members ++ later)).IsIntegral := by
  cases h with
  | object h =>
    cases h' with
    | object h' => exact .object (List.forall_mem_append.mpr ⟨h, h'⟩)

/-- A value that is printed says its document up to the end of the text. -/
theorem Value.IsIntegral.says_whole {value : Value} (h : value.IsIntegral) :
    Says value.print value.document [] := by
  have hdoc : Says (value.print ++ []) value.document [] := h.says_print fun _ => nofun
  rwa [List.append_nil] at hdoc

/-- The text of a value says the document of the value. -/
theorem Value.IsIntegral.isSaidBy {value : Value} (h : value.IsIntegral) :
    value.document.IsSaidBy value.render := by
  have hdoc := h.says_whole
  rw [← String.toList_ofList (l := value.print)] at hdoc
  exact ⟨_, [], .none _, hdoc, .none []⟩

/-- A value in which fewer than `room` lists and objects are open at once, and no key is
repeated. -/
inductive Value.Fits : (room : Nat) → Value → Prop
  | null (room : Nat) : Fits (room + 1) .null
  | boolean (room : Nat) (b : Bool) : Fits (room + 1) (.boolean b)
  | number (room : Nat) (n : Number) : Fits (room + 1) (.number n)
  | text (room : Nat) (s : String) : Fits (room + 1) (.text s)
  | list {room : Nat} {items : List Value} (hroom : room ≠ 0) (h : ∀ item ∈ items, Fits room item) :
    Fits (room + 1) (.list items)
  | object {room : Nat} {members : Members} (hroom : room ≠ 0) (hkeys : (members.map Prod.fst).Nodup)
    (h : ∀ member ∈ members, Fits room member.2) : Fits (room + 1) (.object members)

private theorem Members.set_eq_append {key : String} {members : Members}
    (h : key ∉ members.map Prod.fst) (value : Value) :
    members.set key value = members ++ [(key, value)] := by
  induction members with
  | nil => rfl
  | cons member members ih =>
    rw [List.map_cons, List.mem_cons, not_or] at h
    rw [set, if_neg (Ne.symm h.1), ih h.2, List.cons_append]

/-- Members with different keys are set one behind the other. -/
theorem Members.foldl_set {members later : Members} (h : ((members ++ later).map Prod.fst).Nodup) :
    later.foldl (fun (made : Members) member => made.set member.1 member.2) members = members ++ later := by
  induction later generalizing members with
  | nil => rw [List.foldl_nil, List.append_nil]
  | cons member later ih =>
    have hnot : member.1 ∉ members.map Prod.fst := by
      rw [List.map_append, List.map_cons, List.nodup_append] at h
      exact fun hmem => h.2.2 _ hmem _ List.mem_cons_self rfl
    have happend : members ++ member :: later = members ++ [member] ++ later := by
      rw [List.append_assoc, List.singleton_append]
    rw [happend] at h ⊢
    rw [List.foldl_cons, set_eq_append hnot, ih h]

/-- The document of a value that is not too deep has that value. -/
theorem Value.Fits.value?_document {room : Nat} {value : Value} (h : value.Fits room) :
    value.document.value? room = some value := by
  induction h with
  | list hroom _ ih =>
    rw [document, Document.value?, if_neg hroom, documents_eq_map, mapM_map_eq ih, Option.map_some]
  | object hroom hkeys _ ih =>
    rw [document, Document.value?, if_neg hroom, entries_eq_map]
    rw [foldlM_map_eq (f := fun (made : Members) member => made.set member.1 member.2)]
    · rw [@Members.foldl_set [] _ hkeys, Option.map_some, List.nil_append]
    · intro member hmember made
      rw [Option.bind_some, ih member hmember, Option.map_some]
  | _ => rfl

end PollAudit.Json
