import PollAudit.Http.Exchange
import PollAudit.Script

namespace PollAudit.Http

/-- A server that answers from scripts, one for every URL or one for each, and keeps the requests
that reached it. -/
structure ScriptedServer where
  reachable : Bool := true
  anywhere : Option (Script Answer) := none
  routes : List (String × Script Answer) := []
  requests : List Request := []

namespace ScriptedServer

/-- The answer to a request for a URL without a script. -/
def noRoute : Answer := .response { status := 404, body := some "no route".toUTF8.toList }

/-- Takes the next answer of the script for `url`. -/
def nextAt (url : String) :
    List (String × Script Answer) → Answer × List (String × Script Answer)
  | [] => (noRoute, [])
  | (key, script) :: rest =>
    if key = url then
      let (answer, script) := script.next?
      (answer.getD noRoute, (key, script) :: rest)
    else
      let (answer, rest) := nextAt url rest
      (answer, (key, script) :: rest)

/-- The scripts as an exchange whose state is the scripts still to be read. -/
def exchange : Exchange (StateM ScriptedServer) := fun request server =>
  if !server.reachable then (.unreachable, server)
  else
    let server := { server with requests := server.requests ++ [request] }
    match server.anywhere with
    | some script =>
      let (answer, script) := script.next?
      (answer.getD noRoute, { server with anywhere := some script })
    | none =>
      let (answer, routes) := nextAt request.target.text server.routes
      (answer, { server with routes := routes })

end ScriptedServer

end PollAudit.Http
