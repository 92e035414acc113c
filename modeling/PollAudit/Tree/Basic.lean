import PollAudit.Count

namespace PollAudit

/-- The identifier under which the management API knows a network. -/
structure NetworkId where
  text : String
deriving DecidableEq, Repr

/-- A data point of a device. -/
structure Point where
  enabled : Bool
deriving DecidableEq, Repr

/-- A device and its points. A disabled device masks all of them. -/
structure Device where
  enabled : Bool
  points : List Point
deriving DecidableEq, Repr

/-- A network with its devices and points attached. -/
structure Network where
  id : NetworkId
  name : String
  plugin : String
  enabled : Bool
  devices : List Device
deriving DecidableEq, Repr

/-- A network as it is listed, without its devices. -/
structure Listing where
  id : NetworkId
  name : String
  plugin : String
  enabled : Bool
deriving DecidableEq, Repr

/-- The configuration tree as fetched at one moment. -/
structure Snapshot where
  networks : List Network
deriving DecidableEq, Repr

end PollAudit
