import PollAudit.Url.Parser

namespace PollAudit.Url

namespace Path

def isFixed : Path → Bool
  | fixed _ => true
  | segments _ => false

/-- The escapes that a name needs to be one segment. -/
def nameSet (kind : Kind) : EscapeSet :=
  if kind.isSpecial then EscapeSet.specialSegment else EscapeSet.segment

/-- A name as a segment. Characters that count nowhere are lost. -/
def segmentOf (kind : Kind) (name : String) : List Char :=
  escape (nameSet kind) (significant name.toList)

/-- Removes the empty segment at the end of a path that has others. -/
def dropEmptyEnd : List String → List String
  | [] => []
  | [only] => [only]
  | first :: rest =>
    if rest.getLast? = some "" then first :: rest.dropLast else first :: rest

/-- Adds a name to a path as one segment. A path of nothing but a slash is as good as none. The
names of one dot and of two are left out. -/
def push (kind : Kind) (path : List String) (name : String) : List String :=
  if name = "." || name = ".." then path
  else
    let trail : Trail := { segments := if path = [""] then [] else path }
    (trail.finish kind (Step.ofText (segmentOf kind name))).segments

end Path

/-- Adds names to the path of a URL, each as one segment. -/
def extend (url : Url) (names : List String) : Url :=
  match url.path with
  | .fixed _ => url
  | .segments path =>
    let path := names.foldl (Path.push url.kind) (Path.dropEmptyEnd path)
    { url with path := .segments path }

/-- Adds a text to the query. -/
def addQuery (url : Url) (text : String) : Url :=
  match url.query with
  | none | some "" => { url with query := some text }
  | some query => { url with query := some (query ++ "&" ++ text) }

/-- The URL without user name and password, which are no part of what is sent to the host. They
stay if the name is no text, or if there is no name and the password is no text. -/
def anonymous (url : Url) : Url :=
  let isText (s : String) := (Text.Utf8.decode? (unescape s.toList)).isSome
  match url.authority with
  | none => url
  | some a =>
    if isText a.username && (a.username != "" || a.password.any isText) then
      { url with authority := some { a with username := "", password := none } }
    else url

end PollAudit.Url
