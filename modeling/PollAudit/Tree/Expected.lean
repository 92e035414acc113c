import PollAudit.Tree.Watched

namespace PollAudit

namespace Snapshot

/-- The networks of the tree that count: watched ones that are enabled. -/
def counted (snapshot : Snapshot) (watched : Watched) : List Network :=
  snapshot.networks.filter fun network => network.enabled && watched.contains network.id

/-- The points that should be under active polling. A point is one of them when it, its device
and its network are enabled and the network is watched. -/
def activePoints (snapshot : Snapshot) (watched : Watched) : List Point :=
  let devices := (snapshot.counted watched).flatMap (·.devices)
  let points := (devices.filter (·.enabled)).flatMap (·.points)
  points.filter (·.enabled)

/-- The number of points that should be under active polling. -/
def expected (snapshot : Snapshot) (watched : Watched) : Count :=
  Count.ofNat (snapshot.activePoints watched).length

end Snapshot

end PollAudit
