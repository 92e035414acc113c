import PollAudit.Idna.Bidi
import PollAudit.Idna.Label

namespace PollAudit.Idna

/-- The labels of a name: every character is replaced by its image, and the result is brought to
normal form. -/
def labels? (name : List Char) : Option (List Label) := do
  let images ← name.mapM image?
  (Text.split '.' (Text.normal images.flatten)).mapM Label.ofText?

/-- A name in ASCII, none for a text that is no name. When one label runs from right to left, all
of them have to keep their order. -/
def toAscii? (name : List Char) : Option (List Char) := do
  let labels ← labels? name
  if labels.any (isBidi ·.read) && !labels.all (keepsOrder ·.read) then none
  else some (Text.join '.' (labels.map Label.written))

end PollAudit.Idna
