import PollAudit.Failure
import PollAudit.Http.Fault

namespace PollAudit

/-- Why a call of the service failed. -/
inductive ApiError
  | transport (fault : Http.Fault)
  | unusableBase (url : String)
  | rejected (status : Nat) (url body : String)
  | malformed (message body : String)
deriving DecidableEq, Repr

namespace ApiError

def message : ApiError → String
  | transport fault => s!"HTTP transport error: {fault.message}"
  | unusableBase url => s!"Base URL cannot be used for API requests: {url}"
  | rejected status url body => s!"Request to {url} failed with status {status}: {body}"
  | malformed message _ => s!"Deserialization error: {message}"

/-- The status of the failed request, if there was an answer to it. -/
def status? : ApiError → Option Nat
  | transport fault => fault.status
  | rejected status _ _ => some status
  | unusableBase _ | malformed .. => none

def isTimeout : ApiError → Bool
  | transport fault => fault.timedOut
  | unusableBase _ | rejected .. | malformed .. => false

/-- The server could not be reached. -/
def isConnect : ApiError → Bool
  | transport fault => fault.unreachable
  | unusableBase _ | rejected .. | malformed .. => false

end ApiError

/-- The address named in a failure whose URL is not known. -/
def Failure.unknownUrl : String := "<unknown>"

/-- A fault as a failure of the monitor: a timeout whatever else it is, a rejected request if a
server that was reached gave a status, and a missing connection otherwise. -/
def Failure.ofFault (fault : Http.Fault) : Failure :=
  let url := fault.url.getD Failure.unknownUrl
  if fault.timedOut then .timeout url
  else
    match fault.status with
    | some status =>
      if fault.unreachable then .unreachable url fault.message
      else .rejected status url fault.message
    | none => .unreachable url fault.message

/-- A failed call as a failure of the monitor. -/
def Failure.ofApi : ApiError → Failure
  | .transport fault => ofFault fault
  | .unusableBase url => .setting s!"Base URL cannot be used for API requests: {url}"
  | .rejected status url body => .rejected status url body
  | .malformed message _ => .malformed message

end PollAudit
