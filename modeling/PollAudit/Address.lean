import PollAudit.Text.Blank
import PollAudit.Text.Split

namespace PollAudit

/-- Why a text is no address. -/
inductive AddressError
  | noColon (text : String)
  | emptyHost
  | badHost (host : String)
  | badPort (port : String)
deriving DecidableEq, Repr

def AddressError.message : AddressError → String
  | noColon text => s!"expected HOST:PORT (e.g. 192.168.15.10:1660), got '{text}'"
  | emptyHost => "host must not be empty"
  | badHost host => s!"invalid host '{host}'"
  | badPort port => s!"invalid port '{port}'"

/-- The place of a service: a name, an IPv4 address or a bracketed IPv6 address, and a port. -/
structure Address where
  host : String
  port : UInt16
deriving DecidableEq, Repr

namespace Address

/-- The characters at which an address would end and something else begin. -/
def isSeparator (c : Char) : Bool :=
  c == '/' || c == '?' || c == '#' || c == '@'

/-- The value of decimal digits read after `n`, none at another character. -/
def decimal? (n : Nat) : List Char → Option Nat
  | [] => some n
  | c :: rest => if c.isDigit then decimal? (10 * n + (c.toNat - '0'.toNat)) rest else none

/-- Reads a port: an optional plus sign and at least one digit, with any number of leading
zeros, of value 65535 at most. -/
def port? (text : List Char) : Option UInt16 :=
  let digits :=
    match text with
    | '+' :: rest => rest
    | _ => text
  if digits.isEmpty then none
  else
    match decimal? 0 digits with
    | none => none
    | some n => if n < UInt16.size then some (UInt16.ofNat n) else none

/-- Reads an address. The host may hold colons, the port may not. -/
def parse (text : String) : Except AddressError Address :=
  match Text.splitAtLast? ':' text.toList with
  | none => .error (.noColon text)
  | some (host, port) =>
    if host.isEmpty then .error .emptyHost
    else if host.any isSeparator || host.any Text.isBlank then
      .error (.badHost (String.ofList host))
    else
      match port? port with
      | none => .error (.badPort (String.ofList port))
      | some n => .ok ⟨String.ofList host, n⟩

/-- The address as text, its port without leading zeros. -/
def text (address : Address) : String :=
  address.host ++ ":" ++ toString address.port.toNat

end Address

end PollAudit
