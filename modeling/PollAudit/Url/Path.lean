import PollAudit.Url.Basic
import PollAudit.Url.Percent
import PollAudit.Text.Split

namespace PollAudit.Url

/-- What a segment does to the path it is added to. -/
inductive Step
  /-- It stays where it is. -/
  | here
  /-- It leaves the last segment. -/
  | up
  /-- It enters a segment of that name. -/
  | into (name : List Char)
  /-- It enters a drive and then a segment, whatever its name. -/
  | across (drive name : List Char)
deriving DecidableEq, Repr

/-- The name of a drive: a letter and a colon or bar. -/
def isDrive : List Char → Bool
  | [c, d] => c.isAlpha && (d == ':' || d == '|')
  | _ => false

/-- A segment that begins with the name of a drive, which a backslash ends. -/
def beginsWithDrive : List Char → Bool
  | c :: d :: '\\' :: _ => isDrive [c, d]
  | segment => isDrive segment

/-- Cuts a text behind a drive at its front if a tab or line end stands there. -/
def cutDrive? (text : List Char) : Option (List Char × List Char) :=
  let (front, behind) := Text.splitAtFirst ':' text
  let drive := significant front ++ [':']
  match behind with
  | some (c :: rest) =>
    if isDrive drive && isIgnored c && significant rest != [] then some (drive, significant rest)
    else none
  | _ => none

namespace Step

/-- Removes a dot, written as such or as an escape, from the front of a text. -/
def dropDot? : List Char → Option (List Char)
  | '.' :: rest => some rest
  | '%' :: '2' :: 'e' :: rest => some rest
  | '%' :: '2' :: 'E' :: rest => some rest
  | _ => none

/-- One dot and two dots lead to no segment. -/
def ofText (text : List Char) : Step :=
  match dropDot? text with
  | none => into text
  | some [] => here
  | some rest =>
    match dropDot? rest with
    | some [] => up
    | _ => into text

/-- Reads a piece of a path. At the front of a file's path it may be cut behind a drive. -/
def ofPiece (kind : Kind) (path : List String) (piece : List Char) : Step :=
  match if kind = .file && path.isEmpty then cutDrive? piece else none with
  | some (drive, name) => across drive (escape EscapeSet.path name)
  | none => ofText (escape EscapeSet.path (significant piece))

end Step

/-- A path that is being read. -/
structure Trail where
  segments : List String
  /-- The path stands on a drive, and so on the own computer. -/
  onDrive : Bool := false
deriving DecidableEq, Repr

namespace Trail

/-- Enters a segment. A drive at the front of a file's path is written with a colon. -/
def enter (kind : Kind) (trail : Trail) (name : List Char) : Trail :=
  match kind, trail.segments, name with
  | .file, [], [c, d] =>
    if isDrive [c, d] then { segments := [String.ofList [c, ':']], onDrive := true }
    else { trail with segments := [String.ofList [c, d]] }
  | _, segments, _ => { trail with segments := segments ++ [String.ofList name] }

/-- Leaves the last segment, unless it begins with a drive. -/
def leave (trail : Trail) : Trail :=
  match trail.segments.getLast? with
  | none => trail
  | some last =>
    if beginsWithDrive last.toList then trail
    else { trail with segments := trail.segments.dropLast }

/-- Takes a step that another one follows. -/
def pass (kind : Kind) (trail : Trail) : Step → Trail
  | .here => trail
  | .up => trail.leave
  | .into name => trail.enter kind name
  | .across drive name =>
    { trail with segments := trail.segments ++ [String.ofList drive, String.ofList name] }

/-- Takes a step that ends the path. A path that ends in no name has an empty last segment. -/
def finish (kind : Kind) (trail : Trail) (step : Step) : Trail :=
  let trail := trail.pass kind step
  match step with
  | .here | .up => { trail with segments := trail.segments ++ [""] }
  | .into _ | .across .. => trail

/-- Follows the pieces of a path. -/
def walk (kind : Kind) (trail : Trail) : List (List Char) → Trail
  | [] => trail
  | [last] => trail.finish kind (Step.ofPiece kind trail.segments last)
  | piece :: rest => walk kind (trail.pass kind (Step.ofPiece kind trail.segments piece)) rest

end Trail

namespace Path

/-- Removes empty segments from the front of a path, of which at least one segment is left. -/
def trim : List String → List String
  | "" :: next :: rest => trim (next :: rest)
  | path => path

/-- Follows a text from a path on. The slash in front of the text was removed. -/
def extend (kind : Kind) (path : List String) (text : List Char) : Trail :=
  Trail.walk kind { segments := path } (Text.splitAt kind.isSlash text)

/-- Removes a slash from the front of a text. -/
def dropSlash? (kind : Kind) (text : List Char) : Option (List Char) :=
  match text.dropWhile isIgnored with
  | c :: rest => if kind.isSlash c then some rest else none
  | [] => none

end Path

end PollAudit.Url
