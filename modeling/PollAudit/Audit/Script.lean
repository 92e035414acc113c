import PollAudit.Audit.Source
import PollAudit.Script

namespace PollAudit

/-- The answer to a scripted stats request, and the polls it keeps the request waiting. -/
structure ScriptedStats where
  result : Except Failure LiveStats
  delay : Nat := 0

/-- A source that answers from scripts and counts the requests made of it. -/
structure ScriptedSource where
  listings : Except Failure (List Listing)
  trees : Script (Except Failure (List Network)) := []
  stats : List (String × Script ScriptedStats) := []
  listingCalls : Nat := 0
  treeCalls : Nat := 0
  statsCalls : Nat := 0

namespace ScriptedSource

/-- A network for which nothing is scripted is not found. -/
def unknownNetwork (name : String) : ScriptedStats :=
  { result := .error (.rejected 404 s!"/name/{name}" "unknown network") }

/-- Takes the next answer of the script filed under `name`. -/
def nextStats (name : String) :
    List (String × Script ScriptedStats) → ScriptedStats × List (String × Script ScriptedStats)
  | [] => (unknownNetwork name, [])
  | (key, script) :: rest =>
    if key = name then
      let (answer, script) := script.next?
      (answer.getD (unknownNetwork name), (key, script) :: rest)
    else
      let (answer, rest) := nextStats name rest
      (answer, (key, script) :: rest)

/-- The scripts as a source whose state is the scripts still to be read. -/
def source : Source (StateM ScriptedSource) where
  listings := fun s => (⟨s.listings, []⟩, { s with listingCalls := s.listingCalls + 1 })
  tree := fun s =>
    let (answer, trees) := s.trees.next?
    (⟨answer.getD (.ok []), []⟩, { s with trees := trees, treeCalls := s.treeCalls + 1 })
  stats := fun _ name s =>
    let (answer, stats) := nextStats name s.stats
    (⟨answer.delay, ⟨answer.result, []⟩⟩,
      { s with stats := stats, statsCalls := s.statsCalls + 1 })

end ScriptedSource

end PollAudit
