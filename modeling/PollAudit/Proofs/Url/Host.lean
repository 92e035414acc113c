import PollAudit.Proofs.Idna.Domain
import PollAudit.Proofs.Url.Percent
import PollAudit.Url.Host

namespace PollAudit.Url

open Text

variable {kind : Kind} {text : List Char}

/-! ## Hosts with colons -/

private theorem lookedUp_of_colon (h : ':' ∈ text) : Host.lookedUp text = .error .badName := by
  have hname : (Utf8.decode? (unescape text)).bind Idna.toAscii? = none := by
    cases hdecode : Utf8.decode? (unescape text) with
    | none => rfl
    | some name =>
      have hbyte : (0x3a : UInt8) ∈ String.utf8EncodeChar ':' := by decide
      have hmem : (0x3a : UInt8) ∈ unescape text :=
        mem_unescapeFrom hbyte (by decide) (by decide) h
      have hcolon : ':' ∈ name := Utf8.mem_of_decode? hdecode hmem (by decide)
      exact Idna.toAscii?_eq_none (by decide) (Idna.image?_of_lt (by decide)) (by decide)
        (by decide) hcolon
  rw [Host.lookedUp, hname]

private theorem bracketed_of_open (h : text.getLast? ≠ some ']') :
    Host.bracketed text = .error .badIpv6 := by
  rw [Host.bracketed.eq_def]
  split
  · rename_i inner
    have hopen : ¬ (inner.getLast? == some ']') = true := by
      rw [beq_iff_eq]
      intro hclosed
      rw [List.getLast?_cons, hclosed] at h
      exact h rfl
    rw [if_neg hopen]
  · rfl

/-- Only an address between brackets may hold a colon. -/
theorem exists_parse_eq_error (hspecial : kind.isSpecial = true) (hcolon : ':' ∈ text)
    (hlast : text.getLast? ≠ some ']') : ∃ error, Host.parse kind text = .error error := by
  by_cases hhead : (text.head? == some '[') = true
  · exact ⟨.badIpv6, by rw [Host.parse, if_pos hhead, bracketed_of_open hlast]⟩
  · exact ⟨.badName, by rw [Host.parse, if_neg hhead, if_pos hspecial, lookedUp_of_colon hcolon]⟩

end PollAudit.Url
