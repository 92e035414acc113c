import PollAudit.Idna.Domain
import PollAudit.Proofs.Text.Normal
import PollAudit.Proofs.Text.Split
import PollAudit.Proofs.Text.Utf8

namespace PollAudit.Idna

open Text

variable {c : Char} {name text : List Char}

/-- An ASCII character is mapped to its lower case. -/
theorem image?_of_lt (h : c.toNat < 0x80) : image? c = some [c.toLower] := if_pos h

private theorem Label.ofText?_eq_none (hforbidden : isForbidden c = true) (hmem : c ∈ text) :
    Label.ofText? text = none := by
  rw [Label.ofText?, if_pos]
  exact List.any_eq_true.mpr ⟨c, hmem, hforbidden⟩

/-- A text with a forbidden character is no name if the character stays as it is: nothing replaces
it, nothing is composed of it, and no label ends there. -/
theorem toAscii?_eq_none (hforbidden : isForbidden c = true) (himage : image? c = some [c])
    (hbase : c.toNat < leastBase) (hdot : c ≠ '.') (hmem : c ∈ name) : toAscii? name = none := by
  have hlabels : labels? name = none := by
    rw [labels?]
    cases himages : name.mapM image? with
    | none => rfl
    | some images =>
      obtain ⟨image, hmemImage, heq⟩ := exists_mem_of_mapM himages hmem
      rw [himage] at heq
      obtain rfl := Option.some.inj heq
      have hmapped : c ∈ images.flatten :=
        List.mem_flatten.mpr ⟨[c], hmemImage, List.mem_singleton_self c⟩
      have hcut : (c == '.') = false := by
        simpa using hdot
      have hsplit : ∃ piece ∈ split '.' (normal images.flatten), c ∈ piece :=
        exists_mem_splitAt hcut (mem_normal hbase hmapped)
      obtain ⟨piece, hpiece, hmemPiece⟩ := hsplit
      by_contra hsome
      obtain ⟨labels, hlabels⟩ := Option.ne_none_iff_exists'.mp hsome
      obtain ⟨label, _, hlabel⟩ := exists_mem_of_mapM hlabels hpiece
      rw [Label.ofText?_eq_none hforbidden hmemPiece] at hlabel
      cases hlabel
  rw [toAscii?, hlabels]
  rfl

end PollAudit.Idna
