import PollAudit.Http.Exchange

namespace PollAudit.Http

namespace Request

/-- The path and query that the first line of a request names. -/
def resource (request : Request) : String :=
  request.url.path.text ++
  (match request.url.query with
    | none => ""
    | some query => "?" ++ query)

/-- A request as it is sent. The connection serves for this one only. -/
def text (request : Request) : String :=
  s!"{method} {request.resource} HTTP/1.1\x0d\n" ++
  s!"Host: {request.host}\x0d\n" ++
  s!"User-Agent: {agent}\x0d\n" ++
  "Accept: */*\x0d\n" ++
  "Connection: close\x0d\n\x0d\n"

end Request

namespace Message

def lineFeed : UInt8 := 10

def carriageReturn : UInt8 := 13

/-- Cuts bytes behind the first line, which loses its end. None if the line has no end. -/
def takeLine? : List UInt8 → Option (List UInt8 × List UInt8)
  | [] => none
  | b :: rest =>
    if b = lineFeed then some ([], rest)
    else
      match takeLine? rest with
      | none => none
      | some (line, behind) =>
        some (if b = carriageReturn && line.isEmpty then [] else b :: line, behind)

private theorem length_takeLine? {bytes line behind : List UInt8}
    (h : takeLine? bytes = some (line, behind)) : behind.length < bytes.length := by
  induction bytes generalizing line behind with
  | nil => simp [takeLine?] at h
  | cons b rest ih =>
    simp only [takeLine?] at h
    split at h
    · simp only [Option.some.injEq, Prod.mk.injEq] at h
      simp [← h.2]
    · split at h
      · simp at h
      · rename_i line' behind' found
        simp only [Option.some.injEq, Prod.mk.injEq] at h
        have := ih found
        simp [← h.2]
        omega

/-- The lines up to the first empty one, and what follows it. -/
def takeHead? (bytes : List UInt8) : Option (List (List UInt8) × List UInt8) :=
  match h : takeLine? bytes with
  | none => none
  | some ([], behind) => some ([], behind)
  | some (line, behind) =>
    have : behind.length < bytes.length := length_takeLine? h
    (takeHead? behind).map fun (lines, body) => (line :: lines, body)
termination_by bytes.length

/-- A line as text, with a replacement for bytes that are none. -/
def lineText (line : List UInt8) : List Char := Text.Utf8.decodeLossy line

/-- The status that the first line of a response gives. -/
def status? (line : List UInt8) : Option Nat :=
  match lineText line with
  | 'H' :: 'T' :: 'T' :: 'P' :: '/' :: '1' :: '.' :: _ :: ' ' :: a :: b :: c :: rest =>
    let ends :=
      match rest with
      | [] => true
      | d :: _ => d == ' '
    if ends then Url.Ipv4.value? 10 [a, b, c] else none
  | _ => none

def isPad (c : Char) : Bool := c == ' ' || c == '\t'

/-- A field of a head: its name in lower case, and its value without the blanks around it. -/
def field (line : List UInt8) : String × String :=
  let (name, value) := Text.splitAtFirst ':' (lineText line)
  let value := ((value.getD []).dropWhile isPad).reverse.dropWhile isPad
  (String.ofList (name.map Char.toLower), String.ofList value.reverse)

/-- Reads the chunks of a body, each behind a line with its size, up to one of size zero. -/
def chunks? (bytes : List UInt8) : Option (List UInt8) :=
  match h : takeLine? bytes with
  | none => none
  | some (line, behind) =>
    let digits := (lineText line).takeWhile fun c => c != ';' && !isPad c
    match if digits.isEmpty then none else Url.Ipv4.value? 16 digits with
    | none => none
    | some 0 => some []
    | some (size + 1) =>
      if behind.length < size + 1 then none
      else
        match h' : takeLine? (behind.drop (size + 1)) with
        | some ([], rest) =>
          have : rest.length < bytes.length := by
            have := length_takeLine? h
            have := length_takeLine? h'
            simp only [List.length_drop] at this
            omega
          (chunks? rest).map (behind.take (size + 1) ++ ·)
        | _ => none
termination_by bytes.length

/-- How the end of a body is marked. -/
inductive Framing
  | empty
  | length (n : Nat)
  | chunked
  | untilClose
deriving DecidableEq, Repr

/-- The framing that a status and the fields of a head call for, none if a field makes no
sense. -/
def framing? (status : Nat) (fields : List (String × String)) : Option Framing :=
  if status < 200 || status = 204 || status = 304 then some .empty
  else
    match fields.lookup "transfer-encoding" with
    | some coding =>
      if (coding.map Char.toLower).endsWith "chunked" then some .chunked else some .untilClose
    | none =>
      match fields.lookup "content-length" with
      | some digits =>
        if digits.isEmpty then none else (Url.Ipv4.value? 10 digits.toList).map .length
      | none => some .untilClose

/-- The body in the bytes behind a head, none if it broke off. -/
def body? (framing : Framing) (bytes : List UInt8) : Option (List UInt8) :=
  match framing with
  | .empty => some []
  | .length n => if bytes.length < n then none else some (bytes.take n)
  | .chunked => chunks? bytes
  | .untilClose => some bytes

/-- What the head of a response says about it. -/
structure Head where
  status : Nat
  location : Option String
  framing : Framing
deriving DecidableEq, Repr

/-- The place that the first line with a location names. Bytes that are no text name none. -/
def location? (lines : List (List UInt8)) : Option String := do
  let line ← lines.find? fun line => (field line).1 == "location"
  let _ ← Text.Utf8.decode? line
  some (field line).2

/-- Reads a head and gives the bytes behind it. None if it is not complete or makes no sense. -/
def readHead? (bytes : List UInt8) : Option (Head × List UInt8) := do
  match ← takeHead? bytes with
  | ([], _) => none
  | (first :: lines, rest) =>
    let status ← status? first
    let framing ← framing? status (lines.map field)
    some (⟨status, location? lines, framing⟩, rest)

/-- The bytes are a whole response, and no more of it will come. -/
def isWhole (bytes : List UInt8) : Bool :=
  match readHead? bytes with
  | none => false
  | some (head, rest) => head.framing != .untilClose && (body? head.framing rest).isSome

/-- The answer in all bytes that a server sent, of which the head took `took` milliseconds. -/
def answer (bytes : List UInt8) (took : Nat) : Answer :=
  match readHead? bytes with
  | none => .closed
  | some (head, rest) =>
    .response
      { status := head.status
        location := head.location
        body := body? head.framing rest
        took := took }

/-- The answer in the bytes that a server sent before the time was over. -/
def lateAnswer (bytes : List UInt8) (took : Nat) : Answer :=
  match readHead? bytes with
  | none => .silent
  | some (head, _) =>
    .response
      { status := head.status
        location := head.location
        body := none
        cut := .late
        took := took }

end Message

end PollAudit.Http
