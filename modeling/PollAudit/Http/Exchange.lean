import PollAudit.Http.Fault
import PollAudit.Http.Uri
import PollAudit.Url.Extend

namespace PollAudit.Http

/-- What a server says to a request. -/
structure Response where
  status : Nat
  location : Option String := none
  /-- The bytes of the body, none if not all of them came. -/
  body : Option (List UInt8)
  /-- What kept the body from coming whole, if something did. -/
  cut : Cut := .broken
  /-- The milliseconds until the head of the response was there. -/
  took : Nat := 0
deriving DecidableEq, Repr

/-- The bytes of the body, or what kept them from coming. -/
def Response.received (response : Response) : Except Cut (List UInt8) :=
  match response.body with
  | none => .error response.cut
  | some bytes => .ok bytes

/-- How an attempt to talk to a server ends. -/
inductive Answer
  | unreachable
  /-- No head of a response was there in time. -/
  | silent
  | closed
  | response (response : Response)
deriving DecidableEq, Repr, Inhabited

/-- A request for the document of a URL, and the milliseconds that are left for its answer. -/
structure Request where
  url : Url
  timeout : Nat
deriving DecidableEq, Repr

namespace Request

def method : String := "GET"

/-- The name under which the program presents itself. -/
def agent : String := "pollwatch/0.1.0"

/-- The host and port that the request is for. -/
def host (request : Request) : String :=
  match request.url.authority with
  | none => ""
  | some a => a.place

/-- The URL as the server gets to see it. -/
def target (request : Request) : Url := { request.url.anonymous with fragment := none }

end Request

/-- One request to one server, as an effect of `m`. -/
abbrev Exchange (m : Type → Type) := Request → m Answer

/-- A URL can be asked for if its scheme is of the web and it is a URI. -/
def isAskable (url : Url) : Bool :=
  (url.scheme == "http" || url.scheme == "https") && isUri url

/-- The number of redirects that are followed. -/
def redirectLimit : Nat := 10

/-- The place a response refers to. One that is no URI is passed over. -/
def Response.next? (response : Response) (url : Url) : Option Url :=
  if isRedirect response.status then
    response.location.bind fun text => (Url.resolve url text).toOption.filter isUri
  else none

/-- Asks for a URL once. Nothing is sent over an encrypted connection. -/
def ask {m : Type → Type} [Monad m] (exchange : Exchange m) (timeout : Nat) (url : Url) :
    m (Except Fault Response) :=
  if !isAskable url then pure (.error (.notAskable url.text))
  else if url.scheme = "https" then pure (.error (.noConnection url.text))
  else do
    match ← exchange ⟨url, timeout⟩ with
    | .unreachable => pure (.error (.noConnection url.text))
    | .silent => pure (.error (.noAnswer url.text))
    | .closed => pure (.error (.closed url.text))
    | .response response => pure (.ok response)

/-- Asks for a URL and follows redirects, `hops` of them at most. The time is for all requests
together: each leaves to those behind it what it did not take. -/
def follow {m : Type → Type} [Monad m] (exchange : Exchange m) :
    (timeout hops : Nat) → Url → m (Except Fault Response)
  | timeout, 0, url => do
    match ← ask exchange timeout url with
    | .error fault => pure (.error fault)
    | .ok response =>
      match response.next? url with
      | none => pure (.ok response)
      | some _ => pure (.error (.tooManyRedirects url.text))
  | timeout, hops + 1, url => do
    match ← ask exchange timeout url with
    | .error fault => pure (.error fault)
    | .ok response =>
      match response.next? url with
      | none => pure (.ok response)
      | some next => follow exchange (timeout - response.took) hops next

/-- The response to the request for a URL, after redirects. -/
def get {m : Type → Type} [Monad m] (exchange : Exchange m) (timeout : Nat) (url : Url) :
    m (Except Fault Response) :=
  follow exchange timeout redirectLimit url.anonymous

end PollAudit.Http
