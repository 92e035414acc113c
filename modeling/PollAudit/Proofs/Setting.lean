import PollAudit.Proofs.Address
import PollAudit.Proofs.Url.Authority
import PollAudit.Proofs.Url.Parser
import PollAudit.Setting

namespace PollAudit

/-- A URL is the root of a host at a port. -/
structure Url.IsRootAt (url : Url) (port : UInt16) : Prop where
  scheme : url.scheme = "http"
  authority : ∃ host, url.authority = some { host := some host, port := url.port? }
  port : url.port?.getD 80 = port
  path : url.path.text = "/"
  query : url.query = none
  fragment : url.fragment = none

namespace Address

variable {text : String} {address : Address}

private theorem isIgnored_of_not_isBlank {c : Char} (h : Text.isBlank c = false) :
    Url.isIgnored c = false := by
  by_contra hignored
  have hc : c = '\t' ∨ c = '\n' ∨ c = '\r' := by
    simpa [Url.isIgnored, or_iff_not_imp_left] using hignored
  obtain rfl | rfl | rfl := hc <;> cases h

/-- A host that was read holds no separators and no blanks. -/
theorem host_of_parse (h : parse text = .ok address) :
    ∀ c ∈ address.host.toList, isSeparator c = false ∧ Text.isBlank c = false := by
  obtain ⟨_, _, _, _, hclean, _⟩ := parse_eq_ok_iff.mp h
  intro c hc
  obtain ⟨hslash, hquery, hhash, hat, hblank⟩ := hclean c hc
  exact ⟨by simp [isSeparator, hslash, hquery, hhash, hat], hblank⟩

/-- The host without the backslashes at its front, which count as slashes of a URL. -/
def bareHost (address : Address) : List Char := address.host.toList.dropWhile (· == '\\')

private theorem bareHost_eq (h : parse text = .ok address) :
    (address.host.toList ++ ':' :: address.digits).dropWhile (Url.Kind.web 80).isSlash =
      address.bareHost ++ ':' :: address.digits := by
  have hslash : ∀ c ∈ address.host.toList, (Url.Kind.web 80).isSlash c = (c == '\\') := by
    intro c hc
    have hseparator := (host_of_parse h c hc).1
    have hne : c ≠ '/' := by
      rintro rfl
      cases hseparator
    simp [Url.Kind.isSlash, Url.Kind.isSpecial, hne]
  rw [bareHost]
  generalize address.host.toList = host at hslash
  induction host with
  | nil => rfl
  | cons c host ih =>
    obtain ⟨hc, hhost⟩ := List.forall_mem_cons.mp hslash
    rw [List.cons_append, List.dropWhile_cons, List.dropWhile_cons, hc, ih hhost]
    split <;> rfl

/-- An address is read as an authority from its bare host and its port. -/
theorem parse_http_text (h : parse text = .ok address) : Url.parse ("http://" ++ address.text) =
    Url.readAuthority "http" (address.bareHost ++ ':' :: address.digits) := by
  obtain hnil | ⟨front, last, hdigits⟩ := List.eq_nil_or_concat' address.digits
  · exact absurd hnil address.digits_ne_nil
  have htext : address.text.toList = (address.host.toList ++ ':' :: front) ++ [last] := by
    rw [toList_text, hdigits, List.append_assoc, List.cons_append]
  have hlast : Url.isOuterBlank last = false := by
    have hdigit := address.isDigit_of_mem_digits last (hdigits ▸ by simp)
    have hzero := (Char.isDigit_iff_toNat.mp hdigit).1
    simpa [Url.isOuterBlank] using Nat.lt_of_lt_of_le (by decide) hzero
  have hcount : ∀ c ∈ address.text.toList, Url.isIgnored c = false := by
    intro c hc
    rw [toList_text, List.mem_append, List.mem_cons] at hc
    obtain hc | rfl | hc := hc
    · exact isIgnored_of_not_isBlank (host_of_parse h c hc).2
    · rfl
    · have hdigit := address.isDigit_of_mem_digits c hc
      have htab : c ≠ '\t' := Url.ne_of_isDigit hdigit rfl
      have hline : c ≠ '\n' := Url.ne_of_isDigit hdigit rfl
      have hreturn : c ≠ '\r' := Url.ne_of_isDigit hdigit rfl
      simp [Url.isIgnored, htab, hline, hreturn]
  rw [Url.parse_http htext hlast hcount, toList_text, bareHost_eq h]

end Address

namespace Setting

variable {text : String} {address : Address}

private theorem isRootAt_finish {authority : Url.Authority} {host : Url.Host} {port : Option UInt16}
    (hauthority : authority = { host := some host, port := port }) :
    (Url.finish "http" (some authority) [] []).IsRootAt (port.getD 80) := by
  subst hauthority
  exact ⟨rfl, ⟨host, rfl⟩, rfl, rfl, rfl, rfl⟩

/-- What stands between a backslash and the port becomes a path. -/
theorem not_isRootAt_finish {authority : Url.Authority} {inner : List Char} {port : UInt16}
    (hinner : ∀ c ∈ inner, c ≠ '/' ∧ c ≠ '?' ∧ c ≠ '#' ∧ c ≠ '@') :
    ¬ (Url.finish "http" (some authority) []
      ('\\' :: (inner ++ ':' :: address.digits))).IsRootAt port := by
  have hpath : ∀ c ∈ inner ++ ':' :: address.digits, Url.endsPath c = false := by
    intro c hc
    obtain ⟨_, hquery, hhash, _⟩ :=
      Url.Authority.ne_of_mem_typed hinner address.isDigit_of_mem_digits c hc
    simp [Url.endsPath, hquery, hhash]
  obtain ⟨front, last, hsegments, hlast⟩ :=
    Url.exists_segments_extend address.isDigit_of_mem_digits
  intro hroot
  have hroot := hroot.path
  rw [Url.path_finish_http hpath, hsegments] at hroot
  exact Url.Path.text_ne_root hlast hroot

private theorem getD_shown (port : UInt16) :
    (Url.Authority.shown (.web 80) port).getD 80 = port := by
  rw [Url.Authority.shown]
  split
  · rename_i hdefault
    exact Option.some.inj hdefault
  · rfl

/-- An address that was read makes a setting whose base is the root of its host at its port, unless
a backslash cuts the host, or it makes none. -/
theorem ofAddress_text (h : Address.parse text = .ok address) :
    (∃ error : Url.Error, ofAddress address.text =
      .error (.setting s!"invalid address '{address.text}': {error.message}")) ∨
    ∃ setting, ofAddress address.text = .ok setting ∧
      (setting.base.IsRootAt address.port ↔ '\\' ∉ address.bareHost) := by
  have hparse := Address.parse_http_text h
  have hmem {c : Char} (hc : c ∈ address.bareHost) : c ∈ address.host.toList :=
    (List.dropWhile_suffix _).mem hc
  have hchars : ∀ c ∈ address.bareHost, c ≠ '/' ∧ c ≠ '?' ∧ c ≠ '#' ∧ c ≠ '@' := by
    intro c hc
    have hseparator := (Address.host_of_parse h c (hmem hc)).1
    simpa [Address.isSeparator, and_assoc] using hseparator
  rw [ofAddress, hparse, Url.readAuthority]
  cases htake : Url.Authority.take (Url.Kind.ofScheme "http")
      (address.bareHost ++ ':' :: address.digits) with
  | error error => exact .inl ⟨error, rfl⟩
  | ok found =>
    obtain ⟨authority, behind⟩ := found
    refine .inr ⟨_, rfl, ?_⟩
    obtain ⟨host, port, hauthority, ⟨rfl, hport, hbare⟩ | ⟨front, inner, hhost, rfl⟩⟩ :=
      Url.Authority.take_eq_ok rfl hchars address.isDigit_of_mem_digits htake
    · have hshown := hport.symm.trans (Url.Authority.takePort_toDigits (.web 80) address.port)
      obtain ⟨rfl, _⟩ := Prod.mk.inj (Except.ok.inj hshown)
      have hroot := isRootAt_finish hauthority
      rw [getD_shown] at hroot
      exact iff_of_true hroot hbare
    · have hinner : ∀ c ∈ inner, c ≠ '/' ∧ c ≠ '?' ∧ c ≠ '#' ∧ c ≠ '@' :=
        fun c hc => hchars c (hhost ▸ by simp [hc])
      exact iff_of_false (not_isRootAt_finish hinner) fun hnone => hnone (hhost ▸ by simp)

/-- The loopback address, typed with a leading zero in its port. -/
theorem isRootAt_of_loopback :
    Address.parse "[::1]:01660" = .ok ⟨"[::1]", 1660⟩ ∧
      '\\' ∉ Address.bareHost ⟨"[::1]", 1660⟩ ∧
      ∃ setting, ofAddress "[::1]:1660" = .ok setting ∧ setting.base.IsRootAt 1660 := by
  have hparse : Address.parse "[::1]:01660" = .ok ⟨"[::1]", 1660⟩ := by decide +kernel
  have hbare : '\\' ∉ Address.bareHost ⟨"[::1]", 1660⟩ := by decide +kernel
  have htext : Address.text ⟨"[::1]", 1660⟩ = "[::1]:1660" := by decide +kernel
  refine ⟨hparse, hbare, ?_⟩
  obtain ⟨error, herror⟩ | ⟨setting, hsetting, hroot⟩ := ofAddress_text hparse
  · have hok : (ofAddress (Address.text ⟨"[::1]", 1660⟩)).isOk = true := by decide +kernel
    rw [herror] at hok
    cases hok
  · rw [htext] at hsetting
    exact ⟨setting, hsetting, hroot.mpr hbare⟩

/-- A backslash in a host is taken for the end of it, and what follows for a path. The port typed is
lost. -/
theorem not_isRootAt_of_backslash :
    Address.parse "[::1]\\b:81" = .ok ⟨"[::1]\\b", 81⟩ ∧
      Address.text ⟨"[::1]\\b", 81⟩ = "[::1]\\b:81" ∧
      ∃ setting, ofAddress "[::1]\\b:81" = .ok setting ∧
        setting.base.text = "http://[::1]/b:81" ∧ setting.base.port? = none ∧
        ¬ setting.base.IsRootAt 81 := by
  refine ⟨by decide +kernel, by decide +kernel, ?_⟩
  refine ⟨{
    base := {
      scheme := "http"
      authority := some { host := some (.ipv6 [0, 0, 0, 0, 0, 0, 0, 1]) }
      path := .segments ["b:81"] } }, by decide +kernel, by decide +kernel, rfl, fun hroot => ?_⟩
  exact absurd hroot.port (by decide)

end Setting

end PollAudit
