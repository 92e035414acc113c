import PollAudit.Failure

namespace PollAudit

/-- What ends the program before it is interrupted. -/
inductive Exit
  | unreachable (url reason : String)
  | timeout (url : String)
  | rejected (status : Nat) (url body : String)
  | malformed (message : String)
  | output
  | invalid (field reason : String)
deriving DecidableEq, Repr

namespace Exit

/-- A failed request as the user is told of it. A bad setting can only come from the address. -/
def ofFailure : Failure → Exit
  | .unreachable url reason => unreachable url reason
  | .timeout url => timeout url
  | .rejected status url body => rejected status url body
  | .malformed message => malformed message
  | .setting message => invalid "HOST:PORT" message

def message : Exit → String
  | unreachable url _ => s!"Could not connect to {url}"
  | timeout url => s!"Request to {url} timed out"
  | rejected status _ body => s!"Request failed with status code: {status} {body}"
  | malformed message => s!"Unexpected response from API: {message}"
  | output => "Failed to write report to stdout"
  | invalid field reason => s!"Invalid value for {field}: {reason}"

/-- The exit status: 7 without a connection, 8 after a timeout, 2 for a wrong address, else 1. -/
def status : Exit → Nat
  | unreachable .. => 7
  | timeout .. => 8
  | invalid .. => 2
  | rejected .. | malformed .. | output => 1

/-- The code under which the diagnostic is filed. -/
def code : Exit → String
  | unreachable .. => "pollwatch::connection_failed"
  | timeout .. => "pollwatch::timeout"
  | rejected .. => "pollwatch::request_failed"
  | malformed .. => "pollwatch::invalid_response"
  | output => "pollwatch::output"
  | invalid .. => "pollwatch::validation"

/-- What the user may do about it. -/
def help : Exit → Option String
  | unreachable .. =>
    some "Check that the API is running and reachable at the given HOST:PORT."
  | rejected _ url _ => some s!"URL: {url}"
  | invalid .. => some "please provide IP and port (i.e. 192.168.15.10:1660)"
  | timeout .. | malformed .. | output => none

end Exit

end PollAudit
