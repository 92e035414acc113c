import PollAudit.Url.Host

namespace PollAudit.Url

namespace Authority

/-- The user name and password in front of an authority. An empty password is none. -/
def readUser (text : List Char) : String × Option String :=
  let (name, password) := Text.splitAtFirst ':' text
  let shown (text : List Char) := String.ofList (escape EscapeSet.userInfo text)
  (shown name,
    match password with
    | none | some [] => none
    | some password => some (shown password))

/-- Takes the user information off a text that begins with an authority: its name and password,
and the rest. It reaches up to the last sign of its kind in the authority. -/
def takeUser (kind : Kind) (text : List Char) :
    Except Error ((String × Option String) × List Char) :=
  let front := text.takeWhile (!kind.endsAuthority ·)
  let behind := text.dropWhile (!kind.endsAuthority ·)
  match Text.splitAtLast? '@' front with
  | none => .ok (("", none), text)
  | some ([], []) => if behind.isEmpty then .ok (("", none), []) else .error .emptyHost
  | some (user, host) => .ok (readUser user, host ++ behind)

/-- Cuts a text where its host ends: at a colon outside of brackets or with the authority. -/
def takeHost (kind : Kind) (bracketed : Bool) : List Char → List Char × List Char
  | [] => ([], [])
  | c :: rest =>
    if (c == ':' && !bracketed) || kind.endsAuthority c then ([], c :: rest)
    else
      let (host, behind) := takeHost kind (c == '[' || (bracketed && c != ']')) rest
      (c :: host, behind)

/-- Reads a port and gives the text behind it. No digits are no port. -/
def takePort (kind : Kind) (text : List Char) : Except Error (Option UInt16 × List Char) :=
  let digits := text.takeWhile Char.isDigit
  let behind := text.dropWhile Char.isDigit
  let ends :=
    match behind with
    | [] => true
    | c :: _ => c == '/' || c == '\\' || c == '?' || c == '#'
  match Ipv4.value? 10 digits with
  | none => .error .badPort
  | some n =>
    if n < UInt16.size && ends then
      let port := UInt16.ofNat n
      .ok (if digits.isEmpty || kind.defaultPort == some port then none else some port, behind)
    else .error .badPort

/-- Reads an authority and gives the text behind it. Only URLs of unknown schemes may lack the
host, and then the port and the user too. -/
def take (kind : Kind) (text : List Char) : Except Error (Authority × List Char) := do
  let ((username, password), text) ← takeUser kind text
  let (host, behind) := takeHost kind false text
  match host, behind with
  | [], ':' :: _ => .error .emptyHost
  | [], behind =>
    if kind.isSpecial || username != "" || password.isSome then .error .emptyHost
    else .ok ({ host := none }, behind)
  | host, ':' :: text => do
    let host ← Host.parse kind host
    let (port, behind) ← takePort kind text
    .ok (⟨username, password, some host, port⟩, behind)
  | host, behind => do
    let host ← Host.parse kind host
    .ok (⟨username, password, some host, none⟩, behind)

/-- Reads the host of a file URL, which has no user and no port. The own computer is no host, and
the name of a drive belongs to the path. -/
def takeFileHost (isDrive : List Char → Bool) (text : List Char) :
    Except Error (Authority × List Char) :=
  let front := significant (text.takeWhile (!Kind.file.endsAuthority ·))
  let behind := text.dropWhile (!Kind.file.endsAuthority ·)
  if isDrive front then .ok ({ host := none }, text)
  else if front.isEmpty then .ok ({ host := none }, behind)
  else do
    let host ← Host.parse .file front
    .ok ({ host := if host = .name "localhost" then none else some host }, behind)

end Authority

end PollAudit.Url
