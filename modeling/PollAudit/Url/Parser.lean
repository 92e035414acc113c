import PollAudit.Url.Authority
import PollAudit.Url.Path

namespace PollAudit.Url

/-- Controls and blanks are cut off both ends of a URL. -/
def isOuterBlank (c : Char) : Bool := c.toNat ≤ 0x20

/-- A text without the blanks at its ends. -/
def trimmed (text : List Char) : List Char :=
  ((text.dropWhile isOuterBlank).reverse.dropWhile isOuterBlank).reverse

/-- The characters of a scheme. -/
def isSchemePart (c : Char) : Bool := c.isAlphanum || c == '+' || c == '-' || c == '.'

/-- The scheme at the front of a text, in lower case, and what follows its colon. -/
def takeScheme? (text : List Char) : Option (String × List Char) :=
  let isPart (c : Char) := isSchemePart c || isIgnored c
  match significant (text.takeWhile isPart), text.dropWhile isPart with
  | c :: name, ':' :: rest =>
    if c.isAlpha then some (String.ofList ((c :: name).map Char.toLower), rest) else none
  | _, _ => none

/-- The characters at which a path ends. -/
def endsPath (c : Char) : Bool := c == '?' || c == '#'

/-- Reads what follows a path: a query up to a hash, and a fragment. -/
def readTail (kind : Kind) (text : List Char) : Option String × Option String :=
  let (front, fragment) := Text.splitAtFirst '#' (significant text)
  let set := if kind.isSpecial then EscapeSet.specialQuery else EscapeSet.query
  (match front with
    | '?' :: query => some (String.ofList (escape set query))
    | _ => none,
    fragment.map fun f => String.ofList (escape EscapeSet.fragment f))

/-- Reads the path and tail that stand behind an authority or a scheme. The path begins in
`base`. -/
def finish (scheme : String) (authority : Option Authority) (base : List String)
    (text : List Char) : Url :=
  let kind := Kind.ofScheme scheme
  let (query, fragment) := readTail kind (text.dropWhile (!endsPath ·))
  let path := text.takeWhile (!endsPath ·)
  let trail : Trail :=
    if path.isEmpty && !kind.isSpecial && base.isEmpty then { segments := [] }
    else Path.extend kind base ((Path.dropSlash? kind path).getD path)
  match kind with
  | .file =>
    { scheme := scheme
      authority := if trail.onDrive then some { host := none } else authority
      path := .segments (Path.trim trail.segments)
      query := query
      fragment := fragment }
  | .web _ | .other =>
    { scheme := scheme
      authority := authority
      path := .segments trail.segments
      guarded := authority.isNone && (Path.segments trail.segments).looksLikeAuthority
      query := query
      fragment := fragment }

/-- Reads a URL whose path is a text of its own kind. -/
def finishFixed (scheme : String) (text : List Char) : Url :=
  let (query, fragment) := readTail (Kind.ofScheme scheme) (text.dropWhile (!endsPath ·))
  let path := escape EscapeSet.controls (text.takeWhile (!endsPath ·))
  { scheme := scheme
    authority := none
    path := .fixed (String.ofList path)
    query := query
    fragment := fragment }

/-- Reads what follows the two slashes in front of an authority. -/
def readAuthority (scheme : String) (text : List Char) : Except Error Url := do
  let (authority, rest) ← Authority.take (Kind.ofScheme scheme) text
  .ok (finish scheme (some authority) [] rest)

/-- Reads what follows the scheme of a file. Behind two slashes and no host, the path is all that
follows. -/
def readFile (text : List Char) : Except Error Url :=
  match (Path.dropSlash? .file text).bind (Path.dropSlash? .file) with
  | some rest => do
    let (authority, rest) ← Authority.takeFileHost isDrive rest
    .ok (finish "file" (some authority) [] (if authority.host.isNone then '/' :: rest else rest))
  | none => .ok (finish "file" (some { host := none }) [] text)

/-- Reads what follows a scheme. Only the path of a file is read with its tabs and line ends. -/
def readScheme (scheme : String) (text : List Char) : Except Error Url :=
  match Kind.ofScheme scheme, significant text with
  | .file, _ => readFile text
  | .web port, text => readAuthority scheme (text.dropWhile (Kind.web port).isSlash)
  | .other, '/' :: '/' :: rest => readAuthority scheme rest
  | .other, '/' :: rest => .ok (finish scheme none [] ('/' :: rest))
  | .other, text => .ok (finishFixed scheme text)

/-- Reads a URL. -/
def parse (text : String) : Except Error Url :=
  match takeScheme? (trimmed text.toList) with
  | none => .error .noScheme
  | some (scheme, rest) => readScheme scheme rest

/-- Reads a reference without a scheme, which takes from the base all that it leaves out. -/
def readReference (base : Url) (path : List String) (text : List Char) : Except Error Url :=
  match text with
  | [] => .ok { base with fragment := none }
  | '#' :: _ => .ok { base with fragment := (readTail base.kind text).2 }
  | '?' :: _ =>
    let (query, fragment) := readTail base.kind text
    .ok { base with query := query, fragment := fragment }
  | c :: rest =>
    if base.kind.isSlash c then
      if rest.head?.any base.kind.isSlash then
        readAuthority base.scheme (text.dropWhile base.kind.isSlash)
      else .ok (finish base.scheme base.authority [] text)
    else .ok (finish base.scheme base.authority (path.dropLast) text)

/-- Reads a URL that may be given relative to another one. -/
def resolve (base : Url) (text : String) : Except Error Url :=
  let text := trimmed text.toList
  match takeScheme? text, base.path with
  | some (scheme, rest), .segments path =>
    let near := ((significant rest).takeWhile base.kind.isSlash).length < 2
    if scheme = base.scheme && base.kind.isSpecial && near then
      readReference base path (significant rest)
    else readScheme scheme rest
  | some (scheme, rest), .fixed _ => readScheme scheme rest
  | none, .segments path => readReference base path (significant text)
  | none, .fixed _ =>
    match significant text with
    | '#' :: _ => .ok { base with fragment := (readTail base.kind text).2 }
    | _ => .error .fixedBase

end PollAudit.Url
