namespace PollAudit

/-- Why a request of the monitor failed. Every failure ends the run. -/
inductive Failure
  | unreachable (url reason : String)
  | timeout (url : String)
  | rejected (status : Nat) (url body : String)
  | malformed (message : String)
  | setting (message : String)
deriving DecidableEq, Repr

namespace Failure

def message : Failure → String
  | unreachable url reason => s!"Cannot connect to {url}: {reason}"
  | timeout url => s!"Request to {url} timed out"
  | rejected status _ body => s!"Request failed with status code: {status} {body}"
  | malformed message => s!"Invalid response: {message}"
  | setting message => s!"Configuration error: {message}"

end Failure

end PollAudit
