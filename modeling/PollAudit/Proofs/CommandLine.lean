import PollAudit.CommandLine

namespace PollAudit.Command

/-- The arguments are one value and nothing else. A lone `--` may stand on either side of it, and
one in front lets the value begin with a dash. -/
def IsOnly (arguments : List String) (text : String) : Prop :=
  arguments = ["--", text] ∨
    classify text = .value ∧ (arguments = [text] ∨ arguments = [text, "--"])

variable {arguments rest : List String} {argument text : String} {address : Address}

/-- Two dashes end the options. -/
theorem classify_separator : classify "--" = .separator := rfl

private theorem longArgument_ne_separator (name : List Char) : longArgument name ≠ .separator := by
  unfold longArgument
  simp only
  split
  · split <;> exact nofun
  · split
    · split <;> exact nofun
    · exact nofun

private theorem eq_separator_of_classify (h : classify argument = .separator) :
    argument = "--" := by
  unfold classify at h
  split at h
  · rename_i hlist
    exact String.toList_inj.mp hlist
  · exact absurd h (longArgument_ne_separator _)
  all_goals cases h

/-- No flag asks for an address to be watched. -/
theorem flag_ne_watch (h : classify argument = .flag (watch address)) : False := by
  unfold classify longArgument at h
  simp only at h
  split at h
  · cases h
  · split at h
    · split at h <;> cases h
    · split at h
      · split at h <;> cases h
      · cases h
  all_goals cases h

private theorem ofAddress_eq_watch_iff : ofAddress text = .watch address ↔
    Address.parse text = .ok address := by
  rw [ofAddress]
  cases Address.parse text with
  | ok found => simp
  | error cause => simp

/-- One value is read as an address. -/
theorem parse_of_isOnly (h : IsOnly arguments text) : parse arguments = ofAddress text := by
  obtain rfl | ⟨hvalue, rfl | rfl⟩ := h
  · simp only [parse, read, classify_separator, readValues]
  · simp only [parse, read, hvalue]
  · simp only [parse, read, hvalue, classify_separator, readValues]

private theorem readValues_none_eq_watch (h : readValues none rest = .watch address) :
    ∃ text, rest = [text] ∧ ofAddress text = .watch address := by
  match rest with
  | [] => cases h
  | [text] => exact ⟨text, rfl, h⟩
  | _ :: _ :: _ => cases h

private theorem readValues_some_eq_watch (h : readValues (some text) rest = .watch address) :
    rest = [] ∧ ofAddress text = .watch address := by
  match rest with
  | [] => exact ⟨rfl, h⟩
  | _ :: _ => cases h

private theorem read_some_eq_watch (h : read (some text) rest = .watch address) :
    (rest = [] ∨ rest = ["--"]) ∧ ofAddress text = .watch address := by
  match rest with
  | [] => exact ⟨.inl rfl, h⟩
  | argument :: later =>
    rw [read] at h
    cases hclass : classify argument with
    | separator =>
      simp only [hclass] at h
      obtain ⟨rfl, haddress⟩ := readValues_some_eq_watch h
      exact ⟨.inr (congrArg ([·]) (eq_separator_of_classify hclass)), haddress⟩
    | wrong error =>
      simp only [hclass] at h
      cases h
    | flag command =>
      simp only [hclass] at h
      split at h
      · cases h
      · subst h
        exact (flag_ne_watch hclass).elim
    | value =>
      simp only [hclass] at h
      cases h

/-- Something is watched exactly if the arguments are one value that is an address. -/
theorem parse_eq_watch_iff : parse arguments = .watch address ↔
    ∃ text, IsOnly arguments text ∧ Address.parse text = .ok address := by
  constructor
  · intro h
    match arguments with
    | [] => cases h
    | argument :: rest =>
      rw [parse, read] at h
      cases hclass : classify argument with
      | separator =>
        simp only [hclass] at h
        obtain ⟨text, rfl, haddress⟩ := readValues_none_eq_watch h
        obtain rfl := eq_separator_of_classify hclass
        exact ⟨text, .inl rfl, ofAddress_eq_watch_iff.mp haddress⟩
      | wrong error =>
        simp only [hclass] at h
        cases h
      | flag command =>
        simp only [hclass] at h
        obtain rfl : command = .watch address := h
        exact (flag_ne_watch hclass).elim
      | value =>
        simp only [hclass] at h
        obtain ⟨rfl | rfl, haddress⟩ := read_some_eq_watch h
        · exact ⟨argument, .inr ⟨hclass, .inl rfl⟩, ofAddress_eq_watch_iff.mp haddress⟩
        · exact ⟨argument, .inr ⟨hclass, .inr rfl⟩, ofAddress_eq_watch_iff.mp haddress⟩
  · rintro ⟨text, honly, haddress⟩
    rw [parse_of_isOnly honly, ofAddress_eq_watch_iff]
    exact haddress

end PollAudit.Command
