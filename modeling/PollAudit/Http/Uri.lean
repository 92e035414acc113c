import PollAudit.Url.Basic

namespace PollAudit.Http

namespace Uri

/-- The length of the longest URI. -/
def longest : Nat := 65534

def longestScheme : Nat := 64

/-- The most colons in one piece of an authority, as an address in brackets has them. -/
def mostColons : Nat := 8

/-- The characters that may stand anywhere in an authority. -/
def isPlain (c : Char) : Bool := c.isAlphanum || "!$&'()*+,-.;=_~".toList.contains c

/-- What has been seen of an authority. Colons and percent signs are forgotten behind an at sign and
behind a closing bracket. -/
structure Seen where
  colons : Nat := 0
  percent : Bool := false
  opened : Bool := false
  closed : Bool := false

/-- Goes on by a character, unless no authority has it there. -/
def see (seen : Seen) (c : Char) : Option Seen :=
  match c with
  | ':' => if seen.colons < mostColons then some { seen with colons := seen.colons + 1 } else none
  | '@' => some { seen with colons := 0, percent := false }
  | '%' => some { seen with percent := true }
  | '[' => if seen.percent || seen.opened then none else some { seen with opened := true }
  | ']' =>
    if !seen.opened || seen.closed then none
    else some { seen with colons := 0, percent := false, closed := true }
  | c => if isPlain c then some seen else none

/-- A text can be the authority of a URI. Something stands behind the last at sign, with one colon
at most and no percent sign outside the brackets. -/
def isAuthority (text : List Char) : Bool :=
  match text.foldlM see {} with
  | none => false
  | some seen =>
    seen.opened == seen.closed && seen.colons ≤ 1 && !seen.percent && text.getLast? != some '@'

end Uri

/-- A URL is a URI too. Without an authority of its own, the whole of it has to pass for one. -/
def isUri (url : Url) : Bool :=
  url.text.utf8ByteSize ≤ Uri.longest &&
    match url.authority with
    | some authority =>
      url.scheme.length ≤ Uri.longestScheme && !authority.text.isEmpty &&
        Uri.isAuthority authority.text.toList
    | none => Uri.isAuthority url.text.toList

end PollAudit.Http
