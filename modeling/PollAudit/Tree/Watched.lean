import PollAudit.Tree.Basic

namespace PollAudit

/-- A network whose counters are sampled in every cycle. -/
structure Watch where
  id : NetworkId
  name : String
deriving DecidableEq, Repr

/-- The networks chosen at the start of a run, in the order in which they were listed. -/
structure Watched where
  entries : List Watch
deriving DecidableEq, Repr

namespace Watched

/-- The listed networks served by `plugin`, whether they are enabled or not. -/
def ofListings (listings : List Listing) (plugin : String) : Watched :=
  ⟨(listings.filter (·.plugin == plugin)).map fun listing => ⟨listing.id, listing.name⟩⟩

/-- Membership goes by identifier. -/
def contains (watched : Watched) (id : NetworkId) : Bool :=
  watched.entries.any (·.id == id)

def size (watched : Watched) : Nat :=
  watched.entries.length

def isEmpty (watched : Watched) : Bool :=
  watched.entries.isEmpty

/-- A network is watched exactly if one of the entries has its identifier. -/
theorem contains_iff {watched : Watched} {id : NetworkId} :
    watched.contains id = true ↔ ∃ watch ∈ watched.entries, watch.id = id := by
  simp [contains]

end Watched

end PollAudit
