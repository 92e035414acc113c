import PollAudit.Http.Status

namespace PollAudit.Http

/-- What keeps the body of an answer from coming whole. -/
inductive Cut
  /-- The connection was closed before its end. -/
  | broken
  /-- The time was over before its end. -/
  | late
deriving DecidableEq, Repr

/-- Why an exchange with a server failed. -/
structure Fault where
  reason : String
  url : Option String := none
  status : Option Nat := none
  timedOut : Bool := false
  unreachable : Bool := false
deriving DecidableEq, Repr

namespace Fault

def message (fault : Fault) : String :=
  match fault.url with
  | none => fault.reason
  | some url => s!"{fault.reason} for url ({url})"

/-- No connection could be made. -/
def noConnection (url : String) : Fault :=
  { reason := "error sending request", url := some url, unreachable := true }

/-- No answer came in time. -/
def noAnswer (url : String) : Fault :=
  { reason := "error sending request", url := some url, timedOut := true }

/-- The connection was closed before an answer came. -/
def closed (url : String) : Fault :=
  { reason := "error sending request", url := some url }

/-- The URL cannot be asked for. -/
def notAskable (url : String) : Fault :=
  { reason := "builder error", url := some url }

/-- The servers named one place after the other without end. The URL is that of the last one
asked. -/
def tooManyRedirects (url : String) : Fault :=
  { reason := "error following redirect", url := some url }

/-- The body of the answer did not come whole. No place is named, and that it was late still
shows. -/
def ofCut (cut : Cut) : Fault :=
  { reason := "error decoding response body", timedOut := cut == .late }

/-- A status that is taken for a failure. -/
def ofStatus? (status : Nat) (url : Option String) : Option Fault :=
  let fault (side : String) : Fault :=
    { reason := s!"HTTP status {side} error ({statusText status})"
      url := url
      status := some status }
  if isClientError status then some (fault "client")
  else if isServerError status then some (fault "server")
  else none

end Fault

end PollAudit.Http
