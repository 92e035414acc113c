namespace PollAudit.Url

/-- Why a text is no URL. -/
inductive Error
  | noScheme
  | emptyHost
  | badName
  | badIpv4
  | badIpv6
  | badCharacter
  | badPort
  | fixedBase
deriving DecidableEq, Repr

def Error.message : Error → String
  | noScheme => "relative URL without a base"
  | emptyHost => "empty host"
  | badName => "invalid international domain name"
  | badIpv4 => "invalid IPv4 address"
  | badIpv6 => "invalid IPv6 address"
  | badCharacter => "invalid domain character"
  | badPort => "invalid port number"
  | fixedBase => "relative URL with a cannot-be-a-base base"

end PollAudit.Url
