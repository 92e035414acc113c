import PollAudit.Address
import PollAudit.Proofs.Text.Split

namespace PollAudit.Address

/-- The digits of the port. -/
def digits (address : Address) : List Char := Nat.toDigits 10 address.port.toNat

/-- A port is written with one digit at least. -/
theorem digits_ne_nil (address : Address) : address.digits ≠ [] := Nat.toDigits_ne_nil

/-- Nothing but digits is written for a port. -/
theorem isDigit_of_mem_digits (address : Address) : ∀ c ∈ address.digits, c.isDigit = true :=
  fun _ hc => Nat.isDigit_of_mem_toDigits (by decide) (by decide) hc

/-- The characters of an address: its host, a colon and the digits of its port. -/
theorem toList_text (address : Address) :
    address.text.toList = address.host.toList ++ ':' :: address.digits := by
  rw [text, String.toList_append, String.toList_append, Nat.toString_eq_repr, Nat.toList_repr,
    List.append_assoc]
  rfl

/-- A text spells a port: digits, perhaps behind a plus sign, of which the port is the value. -/
def IsPort (text : List Char) (port : UInt16) : Prop :=
  ∃ digits : List Char, (text = digits ∨ text = '+' :: digits) ∧ digits ≠ [] ∧
    (∀ c ∈ digits, c.isDigit = true) ∧ Nat.ofDigitChars 10 digits 0 = port.toNat

/-- None of the characters that end a host, and no white space. -/
def IsClean (host : List Char) : Prop :=
  ∀ c ∈ host, c ≠ '/' ∧ c ≠ '?' ∧ c ≠ '#' ∧ c ≠ '@' ∧ Text.isBlank c = false

/-- A text spells an address: a host that may hold colons, a colon and a port. -/
def Spells (text : String) (address : Address) : Prop :=
  ∃ port, text.toList = address.host.toList ++ ':' :: port ∧ ':' ∉ port ∧
    address.host ≠ "" ∧ IsClean address.host.toList ∧ IsPort port address.port

/-- The first fault of a text that spells no address. What is looked at later may be wrong too. -/
inductive Refuses : String → AddressError → Prop
  | noColon {text : String} (hcolon : ':' ∉ text.toList) : Refuses text (.noColon text)
  | emptyHost {text : String} {port : List Char} (htext : text.toList = ':' :: port)
    (hport : ':' ∉ port) : Refuses text .emptyHost
  | badHost {text host : String} {port : List Char}
    (htext : text.toList = host.toList ++ ':' :: port) (hport : ':' ∉ port) (hne : host ≠ "")
    (hhost : ¬ IsClean host.toList) : Refuses text (.badHost host)
  | badPort {text host port : String} (htext : text.toList = host.toList ++ ':' :: port.toList)
    (hport : ':' ∉ port.toList) (hne : host ≠ "") (hhost : IsClean host.toList)
    (hnone : ¬ ∃ n, IsPort port.toList n) : Refuses text (.badPort port)

private theorem isClean_iff {host : List Char} :
    IsClean host ↔ (host.any isSeparator || host.any Text.isBlank) = false := by
  simp only [IsClean, isSeparator, Bool.or_eq_false_iff, List.any_eq_false, Bool.or_eq_true,
    beq_iff_eq, not_or, Bool.not_eq_true, ← forall_and, and_assoc]

private theorem decimal?_eq_some_iff {digits : List Char} {n m : Nat} : decimal? n digits = some m ↔
    (∀ c ∈ digits, c.isDigit = true) ∧ Nat.ofDigitChars 10 digits n = m := by
  induction digits generalizing n with
  | nil => simp [decimal?, Nat.ofDigitChars]
  | cons c digits ih =>
    rw [decimal?, List.forall_mem_cons, Nat.ofDigitChars_cons]
    split
    · rename_i hc
      rw [ih]
      simp [hc]
    · rename_i hc
      simp [hc]

/-- The digits are read as a port exactly if there are some and their value has 16 bits. -/
private theorem ofDigits_eq_some_iff {digits : List Char} {port : UInt16} :
    (if digits.isEmpty then none
      else
        match decimal? 0 digits with
        | none => none
        | some n => if n < UInt16.size then some (UInt16.ofNat n) else none) = some port ↔
    digits ≠ [] ∧ (∀ c ∈ digits, c.isDigit = true) ∧
      Nat.ofDigitChars 10 digits 0 = port.toNat := by
  rw [← decimal?_eq_some_iff]
  cases digits with
  | nil => simp
  | cons c digits =>
    rw [if_neg (by simp)]
    cases hvalue : decimal? 0 (c :: digits) with
    | none => simp
    | some n =>
      have hbound : port.toNat < UInt16.size := port.toNat_lt
      have hvalue : (if n < UInt16.size then some (UInt16.ofNat n) else none) = some port ↔
          n = port.toNat := by
        constructor
        · intro h
          split at h
          · rw [← Option.some.inj h, UInt16.toNat_ofNat_of_lt' ‹_›]
          · cases h
        · rintro rfl
          rw [if_pos hbound, UInt16.ofNat_toNat]
      simpa using hvalue

private theorem port?_eq_some_iff {text : List Char} {port : UInt16} :
    port? text = some port ↔ IsPort text port := by
  unfold port?
  split
  · rename_i rest
    -- A plus sign is no digit, so the digits are those behind it.
    refine ofDigits_eq_some_iff.trans ⟨fun h => ⟨rest, .inr rfl, h⟩, ?_⟩
    rintro ⟨digits, rfl | heq, h⟩
    · exact absurd (h.2.1 '+' List.mem_cons_self) (by decide)
    · rwa [(List.cons.inj heq).2]
  · rename_i hplus
    refine ofDigits_eq_some_iff.trans ⟨fun h => ⟨text, .inl rfl, h⟩, ?_⟩
    rintro ⟨digits, rfl | rfl, h⟩
    · exact h
    · exact absurd rfl (hplus digits)

section Parse

variable {text : String} {address : Address} {error : AddressError}

private theorem parse_of_split {host port : List Char} (htext : text.toList = host ++ ':' :: port)
    (hport : ':' ∉ port) : parse text =
      if host.isEmpty then .error .emptyHost
      else if host.any isSeparator || host.any Text.isBlank then
        .error (.badHost (String.ofList host))
      else
        match port? port with
        | none => .error (.badPort (String.ofList port))
        | some n => .ok ⟨String.ofList host, n⟩ := by
  have hcut : Text.splitAtLast? ':' text.toList = some (host, port) := by
    rw [htext, Text.splitAtLast?_append hport]
  unfold parse
  split
  · rename_i hnone
    cases hnone.symm.trans hcut
  · rename_i hsome
    obtain ⟨rfl, rfl⟩ := Prod.mk.inj (Option.some.inj (hsome.symm.trans hcut))
    rfl

private theorem parse_of_spells (h : Spells text address) : parse text = .ok address := by
  obtain ⟨port, htext, hcolon, hne, hclean, hport⟩ := h
  rw [parse_of_split htext hcolon, isClean_iff.mp hclean, port?_eq_some_iff.mpr hport]
  simp [hne]

private theorem parse_of_refuses (h : Refuses text error) : parse text = .error error := by
  cases h with
  | noColon hcolon => rw [parse, Text.splitAtLast?_eq_none_iff.mpr hcolon]
  | emptyHost htext hcolon => exact @parse_of_split _ [] _ htext hcolon
  | badHost htext hcolon hne hclean =>
    rw [isClean_iff, Bool.not_eq_false] at hclean
    rw [parse_of_split htext hcolon, hclean]
    simp [hne]
  | badPort htext hcolon hne hclean hport =>
    have hnone : port? _ = none :=
      Option.eq_none_iff_forall_ne_some.mpr fun n hn => hport ⟨n, port?_eq_some_iff.mp hn⟩
    rw [parse_of_split htext hcolon, isClean_iff.mp hclean, hnone]
    simp [hne]

/-- A text spells an address or is refused for some reason. -/
theorem spells_or_refuses (text : String) :
    (∃ address, Spells text address) ∨ ∃ error, Refuses text error := by
  by_cases hcolon : ':' ∈ text.toList
  · obtain ⟨front, back, htext, hback⟩ := Text.exists_last_of_mem hcolon
    obtain ⟨host, rfl⟩ : ∃ host : String, host.toList = front := ⟨_, String.toList_ofList⟩
    obtain ⟨port, rfl⟩ : ∃ port : String, port.toList = back := ⟨_, String.toList_ofList⟩
    by_cases hne : host = ""
    · subst hne
      exact .inr ⟨_, .emptyHost htext hback⟩
    by_cases hclean : IsClean host.toList
    · by_cases hport : ∃ n, IsPort port.toList n
      · obtain ⟨n, hn⟩ := hport
        exact .inl ⟨⟨host, n⟩, port.toList, htext, hback, hne, hclean, hn⟩
      · exact .inr ⟨_, .badPort htext hback hne hclean hport⟩
    · exact .inr ⟨_, .badHost htext hback hne hclean⟩
  · exact .inr ⟨_, .noColon hcolon⟩

/-- A text is read as an address exactly if it spells that address. -/
theorem parse_eq_ok_iff : parse text = .ok address ↔ Spells text address := by
  refine ⟨fun h => ?_, parse_of_spells⟩
  obtain ⟨other, hspells⟩ | ⟨error, hrefuses⟩ := spells_or_refuses text
  · obtain rfl : other = address := Except.ok.inj ((parse_of_spells hspells).symm.trans h)
    exact hspells
  · cases (parse_of_refuses hrefuses).symm.trans h

private theorem parse_eq_error_iff : parse text = .error error ↔ Refuses text error := by
  refine ⟨fun h => ?_, parse_of_refuses⟩
  obtain ⟨address, hspells⟩ | ⟨other, hrefuses⟩ := spells_or_refuses text
  · cases (parse_of_spells hspells).symm.trans h
  · obtain rfl : other = error := Except.error.inj ((parse_of_refuses hrefuses).symm.trans h)
    exact hrefuses

/-- An address that some text spells is spelt by its own text. -/
theorem Spells.text_self (h : Spells text address) : Spells address.text address := by
  obtain ⟨_, _, _, hne, hclean, _⟩ := h
  have hdigits := address.isDigit_of_mem_digits
  refine ⟨address.digits, address.toList_text, ?_, hne, hclean, address.digits, .inl rfl,
    address.digits_ne_nil, hdigits, Nat.ofDigitChars_ten_toDigits⟩
  exact fun hmem => absurd (hdigits _ hmem) (by decide)

/-- Reading accepts exactly the texts that spell an address, and gives that address. Any other text
is refused for its first fault. The text of an address that was read is read as the same address. -/
theorem parse_eq_iff_spells (text : String) :
    (∀ address, parse text = .ok address ↔ Spells text address) ∧
      (∀ error, parse text = .error error ↔ Refuses text error) ∧
      ∀ address, parse text = .ok address → parse address.text = .ok address :=
  ⟨fun _ => parse_eq_ok_iff, fun _ => parse_eq_error_iff, fun _ h =>
    parse_of_spells (parse_eq_ok_iff.mp h).text_self⟩

/-- A host with colons, and a port with a plus sign and leading zeros that its text leaves out. -/
theorem parse_text_of_padded :
    parse "[::1]:+0001660" = .ok ⟨"[::1]", 1660⟩ ∧ Address.text ⟨"[::1]", 1660⟩ = "[::1]:1660" ∧
      parse (Address.text ⟨"[::1]", 1660⟩) = .ok ⟨"[::1]", 1660⟩ := by
  have hparse : parse "[::1]:+0001660" = .ok ⟨"[::1]", 1660⟩ := by decide +kernel
  exact ⟨hparse, by decide +kernel, (parse_eq_iff_spells "[::1]:+0001660").2.2 _ hparse⟩

end Parse

end PollAudit.Address
