import PollAudit.Url.Ipv4
import PollAudit.Url.Ipv6

namespace PollAudit

namespace Url

/-- The computer a URL names. -/
inductive Host
  | name (text : String)
  | ipv4 (address : Nat)
  | ipv6 (pieces : List Nat)
deriving DecidableEq, Repr

def Host.text : Host → String
  | name text => text
  | ipv4 address => Ipv4.text address
  | ipv6 pieces => "[" ++ Ipv6.text pieces ++ "]"

/-- What stands between the two slashes of a URL and its path. A port that the scheme implies is
left out. -/
structure Authority where
  username : String := ""
  password : Option String := none
  host : Option Host
  port : Option UInt16 := none
deriving DecidableEq, Repr

namespace Authority

/-- The user name and password with the sign behind them. -/
def userInfo (a : Authority) : String :=
  match a.username, a.password with
  | "", none => ""
  | name, none => name ++ "@"
  | name, some password => name ++ ":" ++ password ++ "@"

/-- The host and port. -/
def place (a : Authority) : String :=
  (match a.host with
    | none => ""
    | some host => host.text) ++
  (match a.port with
    | none => ""
    | some port => ":" ++ toString port.toNat)

def text (a : Authority) : String := a.userInfo ++ a.place

end Authority

/-- A path is a text of its own kind, to which nothing can be added, or a list of segments. -/
inductive Path
  | fixed (text : String)
  | segments (list : List String)
deriving DecidableEq, Repr

namespace Path

/-- Every segment has a slash in front of it. -/
def text : Path → String
  | fixed text => text
  | segments list => String.join (list.map ("/" ++ ·))

/-- The path would be taken for an authority if it stood at the place of one. -/
def looksLikeAuthority : Path → Bool
  | segments ("" :: _ :: _) => true
  | _ => false

end Path

/-- What kind of URL a scheme stands for. -/
inductive Kind
  /-- Files of a computer. -/
  | file
  /-- Documents of a host, found at a port unless another is given. -/
  | web (port : UInt16)
  /-- Anything else. -/
  | other
deriving DecidableEq, Repr

namespace Kind

def ofScheme : String → Kind
  | "http" => web 80
  | "https" => web 443
  | "ws" => web 80
  | "wss" => web 443
  | "ftp" => web 21
  | "file" => file
  | _ => other

/-- The kinds for which a backslash is a slash and a host a name to be looked up. -/
def isSpecial : Kind → Bool
  | other => false
  | file | web _ => true

def defaultPort : Kind → Option UInt16
  | web port => some port
  | file | other => none

/-- The characters at which an authority ends. -/
def endsAuthority (kind : Kind) (c : Char) : Bool :=
  c == '/' || c == '?' || c == '#' || (kind.isSpecial && c == '\\')

/-- The characters between two segments. -/
def isSlash (kind : Kind) (c : Char) : Bool :=
  c == '/' || (kind.isSpecial && c == '\\')

end Kind

end Url

/-- The address of something on the net. -/
structure Url where
  scheme : String
  authority : Option Url.Authority
  path : Url.Path
  /-- A slash and a dot stand in front of the path, to keep it from being taken for an
  authority. -/
  guarded : Bool := false
  query : Option String := none
  fragment : Option String := none
deriving DecidableEq, Repr

namespace Url

def kind (url : Url) : Kind := Kind.ofScheme url.scheme

/-- A URL as text. -/
def text (url : Url) : String :=
  url.scheme ++ ":" ++
  (match url.authority with
    | some a => "//" ++ a.text
    | none => if url.guarded then "/." else "") ++
  url.path.text ++
  (match url.query with
    | none => ""
    | some query => "?" ++ query) ++
  (match url.fragment with
    | none => ""
    | some fragment => "#" ++ fragment)

/-- The host, if there is one. -/
def host? (url : Url) : Option Host := url.authority.bind (·.host)

/-- The port, unless it is the one its scheme implies. -/
def port? (url : Url) : Option UInt16 := url.authority.bind (·.port)

end Url

end PollAudit
