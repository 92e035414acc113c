import Mathlib.Data.List.TakeWhile
import PollAudit.Proofs.Url.Host
import PollAudit.Url.Authority

namespace PollAudit.Url

variable {kind : Kind} {text digits : List Char}

/-! ## Decimal numbers -/

/-- A digit is no sign. -/
theorem ne_of_isDigit {c sign : Char} (hc : c.isDigit = true) (hsign : sign.isDigit = false) :
    c ≠ sign := by
  rintro rfl
  rw [hc] at hsign
  cases hsign

private theorem not_mem_of_isDigit {sign : Char} (h : ∀ c ∈ digits, c.isDigit = true)
    (hsign : sign.isDigit = false) : sign ∉ digits :=
  fun hmem => ne_of_isDigit (h sign hmem) hsign rfl

private theorem Ipv4.digit?_of_isDigit {c : Char} (h : c.isDigit = true) :
    digit? 10 c = some (c.toNat - '0'.toNat) := by
  have hbounds := Char.isDigit_iff_toNat.mp h
  have hzero : '0'.toNat = 48 := rfl
  have hnine : '9'.toNat = 57 := rfl
  rw [digit?]
  simp only [h, if_true]
  rw [if_pos (by omega)]

private theorem Ipv4.value?_of_isDigit (h : ∀ c ∈ digits, c.isDigit = true) :
    value? 10 digits = some (Nat.ofDigitChars 10 digits 0) := by
  rw [value?, Nat.ofDigitChars]
  generalize 0 = n
  induction digits generalizing n with
  | nil => rfl
  | cons c digits ih =>
    obtain ⟨hc, hdigits⟩ := List.forall_mem_cons.mp h
    rw [List.foldlM_cons, digit?_of_isDigit hc, List.foldl_cons]
    exact ih hdigits _

/-- A number is read as it was written. -/
theorem Ipv4.value?_toDigits (n : Nat) : value? 10 (Nat.toDigits 10 n) = some n := by
  have hdigits : ∀ c ∈ Nat.toDigits 10 n, c.isDigit = true :=
    fun c hc => Nat.isDigit_of_mem_toDigits (by decide) (by decide) hc
  rw [value?_of_isDigit hdigits, Nat.ofDigitChars_toDigits (by decide) (by decide)]

namespace Authority

/-! ## Ports -/

/-- A port is left out if the kind implies it. -/
def shown (kind : Kind) (port : UInt16) : Option UInt16 :=
  if kind.defaultPort = some port then none else some port

/-- A port is read from its digits, and is not shown if it is the one of the scheme. -/
theorem takePort_toDigits (kind : Kind) (port : UInt16) :
    takePort kind (Nat.toDigits 10 port.toNat) = .ok (shown kind port, []) := by
  have hdigits : ∀ c ∈ Nat.toDigits 10 port.toNat, c.isDigit = true :=
    fun c hc => Nat.isDigit_of_mem_toDigits (by decide) (by decide) hc
  have htake := List.takeWhile_eq_self_iff.mpr hdigits
  have hdrop := List.dropWhile_eq_nil_iff.mpr hdigits
  have hlt : port.toNat < UInt16.size := port.toNat_lt
  have hne : (Nat.toDigits 10 port.toNat).isEmpty = false := by
    simp
  rw [takePort]
  simp only [htake, hdrop, Ipv4.value?_toDigits]
  simp [hlt, hne, shown]

/-- A port that was read reaches to the end of the text or to a sign that ends it. -/
theorem exists_of_takePort {port : Option UInt16} {behind : List Char}
    (h : takePort kind text = .ok (port, behind)) :
    ∃ digits, text = digits ++ behind ∧ (∀ c ∈ digits, c.isDigit = true) ∧
      ∀ c rest, behind = c :: rest → c = '/' ∨ c = '\\' ∨ c = '?' ∨ c = '#' := by
  have htext : text = text.takeWhile Char.isDigit ++ text.dropWhile Char.isDigit :=
    List.takeWhile_append_dropWhile.symm
  refine ⟨text.takeWhile Char.isDigit, ?_⟩
  rw [takePort] at h
  simp only at h
  split at h
  · cases h
  · split at h <;> split at h <;> try cases h
    · rename_i hnil _
      rw [hnil] at htext ⊢
      exact ⟨htext, fun c hc => List.mem_takeWhile_imp hc, fun _ _ heq => by cases heq⟩
    · rename_i c rest hcons hends
      rw [hcons] at htext ⊢
      refine ⟨htext, fun c hc => List.mem_takeWhile_imp hc, ?_⟩
      rintro d rest hd
      obtain ⟨rfl, rfl⟩ := List.cons.inj hd
      rw [Bool.and_eq_true] at hends
      simpa [or_assoc] using hends.2

/-! ## Hosts -/

private theorem takeUser_of_not_mem (h : '@' ∉ text) :
    takeUser kind text = .ok (("", none), text) := by
  have hfront : '@' ∉ text.takeWhile (!kind.endsAuthority ·) :=
    fun hmem => h ((List.takeWhile_prefix _).mem hmem)
  rw [takeUser]
  simp only [Text.splitAtLast?_eq_none_iff.mpr hfront]

/-- A host reaches to the end of the text, to a colon or to the end of the authority. -/
theorem takeHost_eq (kind : Kind) (bracketed : Bool) (text : List Char) :
    ∃ host behind, takeHost kind bracketed text = (host, behind) ∧ text = host ++ behind ∧
      (∀ c ∈ host, kind.endsAuthority c = false) ∧
      ∀ c rest, behind = c :: rest → c = ':' ∨ kind.endsAuthority c = true := by
  induction text generalizing bracketed with
  | nil => exact ⟨[], [], rfl, rfl, by simp, nofun⟩
  | cons c text ih =>
    rw [takeHost]
    split
    · rename_i hends
      refine ⟨[], c :: text, rfl, rfl, by simp, ?_⟩
      rintro d rest hd
      obtain ⟨rfl, rfl⟩ := List.cons.inj hd
      rw [Bool.or_eq_true, Bool.and_eq_true, beq_iff_eq] at hends
      exact hends.imp_left And.left
    · rename_i hends
      obtain ⟨host, behind, hcut, htext, hhost, hbehind⟩ := ih (c == '[' || (bracketed && c != ']'))
      rw [Bool.or_eq_true, not_or, Bool.not_eq_true (kind.endsAuthority c)] at hends
      refine ⟨c :: host, behind, ?_, ?_, ?_, hbehind⟩
      · rw [hcut]
      · rw [htext, List.cons_append]
      · exact List.forall_mem_cons.mpr ⟨hends.2, hhost⟩

/-! ## Authorities -/

variable {authority : Authority} {behind : List Char}

/-- What an authority without user information was read from: a host and, unless the authority ends
there, a port behind a colon. -/
theorem exists_of_take (hspecial : kind.isSpecial = true) (hat : '@' ∉ text)
    (h : take kind text = .ok (authority, behind)) :
    ∃ front name, Host.parse kind front = .ok name ∧
      (∀ c ∈ front, kind.endsAuthority c = false) ∧
      ((∃ rest port, text = front ++ ':' :: rest ∧ takePort kind rest = .ok (port, behind) ∧
          authority = { host := some name, port := port }) ∨
        text = front ++ behind ∧ authority = { host := some name } ∧
          ∀ c rest, behind = c :: rest → kind.endsAuthority c = true) := by
  obtain ⟨front, rest, hcut, htext, hwhole, hstop⟩ := takeHost_eq kind false text
  rw [take, takeUser_of_not_mem hat] at h
  simp only [bind, Except.bind, hcut] at h
  split at h
  · cases h
  · simp [hspecial] at h
  · rename_i tail _
    split at h
    · cases h
    · rename_i name hname
      split at h
      · cases h
      · rename_i found hport
        obtain ⟨port, found⟩ := found
        obtain ⟨rfl, rfl⟩ := Prod.mk.inj (Except.ok.inj h)
        exact ⟨front, name, hname, hwhole, .inl ⟨tail, port, htext, hport, rfl⟩⟩
  · rename_i hcolon _
    split at h
    · cases h
    · rename_i name hname
      obtain ⟨rfl, rfl⟩ := Prod.mk.inj (Except.ok.inj h)
      refine ⟨front, name, hname, hwhole, .inr ⟨htext, rfl, ?_⟩⟩
      intro c tail hrest
      obtain rfl | hend := hstop c tail hrest
      · exact absurd hrest (hcolon tail)
      · exact hend

/-! ## A host and a port -/

section Typed

variable {host : List Char}

/-- What is cut off at a sign that stands in the host only is the rest of the host with the port. -/
theorem exists_eq_append_of_sign {sign : Char} {front rest : List Char} (hsign : sign ≠ ':')
    (hdigits : sign ∉ digits) (h : host ++ ':' :: digits = front ++ sign :: rest) :
    ∃ inner, host = front ++ sign :: inner ∧ rest = inner ++ ':' :: digits := by
  obtain ⟨inner, _, hrest⟩ | ⟨inner, rfl, hrest⟩ := List.append_eq_append_iff.mp h
  · have hmem : sign ∈ ':' :: digits := hrest ▸ List.mem_append_right inner List.mem_cons_self
    simp [hsign, hdigits] at hmem
  · cases inner with
    | nil => exact absurd (List.cons.inj hrest).1 hsign
    | cons c inner =>
      obtain ⟨rfl, htail⟩ := List.cons.inj hrest
      exact ⟨inner, rfl, htail⟩

/-- A text is cut in one way only at a colon with no colons behind. -/
theorem eq_of_append_colon {front rest : List Char} (hdigits : ':' ∉ digits) (hrest : ':' ∉ rest)
    (h : host ++ ':' :: digits = front ++ ':' :: rest) : host = front ∧ digits = rest := by
  obtain ⟨inner, hfront, hcut⟩ | ⟨inner, hhost, hcut⟩ := List.append_eq_append_iff.mp h
  · cases inner with
    | nil => exact ⟨by simpa using hfront.symm, (List.cons.inj hcut).2⟩
    | cons c inner =>
      obtain ⟨_, hcut⟩ := List.cons.inj hcut
      exact absurd (hcut ▸ by simp) hdigits
  · cases inner with
    | nil => exact ⟨by simpa using hhost, (List.cons.inj hcut).2.symm⟩
    | cons c inner =>
      obtain ⟨_, hcut⟩ := List.cons.inj hcut
      exact absurd (hcut ▸ by simp) hrest

/-- A text that ends in a port ends in no bracket. -/
theorem getLast?_ne_of_digits (hdigits : ∀ c ∈ digits, c.isDigit = true) :
    (host ++ ':' :: digits).getLast? ≠ some ']' := by
  intro hlast
  rw [List.getLast?_append, List.getLast?_cons] at hlast
  cases hend : digits.getLast? with
  | none =>
    rw [hend] at hlast
    cases hlast
  | some last =>
    rw [hend] at hlast
    obtain rfl : last = ']' := Option.some.inj hlast
    exact not_mem_of_isDigit hdigits rfl (List.mem_of_getLast? hend)

/-- Neither a host nor a port holds a sign that cuts a URL. -/
theorem ne_of_mem_typed (hhost : ∀ c ∈ host, c ≠ '/' ∧ c ≠ '?' ∧ c ≠ '#' ∧ c ≠ '@')
    (hdigits : ∀ c ∈ digits, c.isDigit = true) :
    ∀ c ∈ host ++ ':' :: digits, c ≠ '/' ∧ c ≠ '?' ∧ c ≠ '#' ∧ c ≠ '@' := by
  intro c hc
  rw [List.mem_append, List.mem_cons] at hc
  obtain hc | rfl | hc := hc
  · exact hhost c hc
  · decide
  · have hdigit := hdigits c hc
    exact ⟨ne_of_isDigit hdigit rfl, ne_of_isDigit hdigit rfl, ne_of_isDigit hdigit rfl,
      ne_of_isDigit hdigit rfl⟩

/-- Of the signs that end an authority or a port, a host and a port hold only backslashes, and these
stand in the host. -/
theorem exists_backslash_of_sign {c : Char} {front rest : List Char}
    (hspecial : kind.isSpecial = true)
    (hhost : ∀ c ∈ host, c ≠ '/' ∧ c ≠ '?' ∧ c ≠ '#' ∧ c ≠ '@')
    (hdigits : ∀ c ∈ digits, c.isDigit = true)
    (hc : kind.endsAuthority c = true ∨ c = '/' ∨ c = '\\' ∨ c = '?' ∨ c = '#')
    (htext : host ++ ':' :: digits = front ++ c :: rest) :
    ∃ front inner, host = front ++ '\\' :: inner ∧
      c :: rest = '\\' :: (inner ++ ':' :: digits) := by
  obtain ⟨hslash, hquery, hhash, _⟩ := ne_of_mem_typed hhost hdigits c (htext ▸ by simp)
  have hback : c = '\\' := by
    simpa [Kind.endsAuthority, hslash, hquery, hhash, hspecial] using hc
  subst hback
  obtain ⟨inner, hinner, rfl⟩ :=
    exists_eq_append_of_sign (by decide) (not_mem_of_isDigit hdigits rfl) htext
  exact ⟨front, inner, hinner, rfl⟩

/-- An authority that was read from a host and a port is the host with the port, if no backslash
cuts it, and else ends at a backslash of the host. -/
theorem take_eq_ok (hspecial : kind.isSpecial = true)
    (hhost : ∀ c ∈ host, c ≠ '/' ∧ c ≠ '?' ∧ c ≠ '#' ∧ c ≠ '@')
    (hdigits : ∀ c ∈ digits, c.isDigit = true)
    (h : take kind (host ++ ':' :: digits) = .ok (authority, behind)) :
    ∃ name port, authority = { host := some name, port := port } ∧
      ((behind = [] ∧ takePort kind digits = .ok (port, []) ∧ '\\' ∉ host) ∨
        ∃ front inner, host = front ++ '\\' :: inner ∧
          behind = '\\' :: (inner ++ ':' :: digits)) := by
  have hat : '@' ∉ host ++ ':' :: digits :=
    fun hmem => (ne_of_mem_typed hhost hdigits '@' hmem).2.2.2 rfl
  have hslash : kind.endsAuthority '\\' = true := by
    simp [Kind.endsAuthority, hspecial]
  obtain ⟨front, name, hname, hwhole, hport | ⟨htext, rfl, hend⟩⟩ := exists_of_take hspecial hat h
  · obtain ⟨rest, port, htext, hport, rfl⟩ := hport
    obtain ⟨read, rfl, hread, hstop⟩ := exists_of_takePort hport
    refine ⟨name, port, rfl, ?_⟩
    obtain _ | ⟨c, behind⟩ := behind
    · rw [List.append_nil] at htext hport
      obtain ⟨rfl, rfl⟩ := eq_of_append_colon (not_mem_of_isDigit hdigits rfl)
        (not_mem_of_isDigit hread rfl) htext
      refine .inl ⟨rfl, hport, fun hmem => ?_⟩
      rw [hwhole _ hmem] at hslash
      cases hslash
    · have hcut : host ++ ':' :: digits = (front ++ ':' :: read) ++ c :: behind := by
        rw [htext, List.append_assoc, List.cons_append]
      exact .inr (exists_backslash_of_sign hspecial hhost hdigits (.inr (hstop c behind rfl)) hcut)
  · refine ⟨name, none, rfl, .inr ?_⟩
    obtain _ | ⟨c, behind⟩ := behind
    · rw [List.append_nil] at htext
      have hlast : front.getLast? ≠ some ']' := htext ▸ getLast?_ne_of_digits hdigits
      obtain ⟨error, herror⟩ := exists_parse_eq_error hspecial (htext ▸ by simp) hlast
      rw [hname] at herror
      cases herror
    · exact exists_backslash_of_sign hspecial hhost hdigits (.inl (hend c behind rfl)) htext

end Typed

end Authority

end PollAudit.Url
