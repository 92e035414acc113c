import PollAudit.Idna.Domain
import PollAudit.Url.Basic
import PollAudit.Url.Error
import PollAudit.Url.Percent

namespace PollAudit.Url

/-- The characters that no host of any kind holds as they are. -/
def isForbiddenInHost (c : Char) : Bool :=
  c.toNat == 0 ||
    ['\t', '\n', '\r', ' ', '#', '/', ':', '<', '>', '?', '@', '[', '\\', ']', '^', '|'].contains c

namespace Host

/-- Reads an address between brackets. -/
def bracketed (text : List Char) : Except Error Host :=
  match text with
  | '[' :: inner =>
    if inner.getLast? == some ']' then
      match Ipv6.parse? inner.dropLast with
      | some pieces => .ok (.ipv6 pieces)
      | none => .error .badIpv6
    else .error .badIpv6
  | _ => .error .badIpv6

/-- Reads a name that can be looked up, or an address. Its percent escapes are resolved, its
letters brought to ASCII. -/
def lookedUp (text : List Char) : Except Error Host :=
  match (Text.Utf8.decode? (unescape text)).bind Idna.toAscii? with
  | none => .error .badName
  | some [] => .error .emptyHost
  | some found =>
    if Ipv4.isNumeric found then
      match Ipv4.parse? found with
      | some address => .ok (.ipv4 address)
      | none => .error .badIpv4
    else .ok (.name (String.ofList found))

/-- Reads a name of which nothing is known. -/
def unknown (text : List Char) : Except Error Host :=
  if text.any isForbiddenInHost then .error .badCharacter
  else .ok (.name (String.ofList (escape EscapeSet.controls text)))

/-- Reads a host that is not empty. -/
def parse (kind : Kind) (text : List Char) : Except Error Host :=
  if text.head? == some '[' then bracketed text
  else if kind.isSpecial then lookedUp text
  else unknown text

end Host

end PollAudit.Url
