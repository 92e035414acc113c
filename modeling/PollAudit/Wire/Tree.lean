import PollAudit.Json.Shape
import PollAudit.Tree.Basic

open PollAudit.Json

namespace PollAudit.Wire

/-- A point as the API sends it. Every member may be missing or null. -/
structure Point where
  uuid : Option String := none
  name : Option String := none
  enable : Option Bool := none
deriving DecidableEq, Repr

/-- A device as the API sends it. -/
structure Device where
  uuid : Option String := none
  name : Option String := none
  enable : Option Bool := none
  points : List Point := []
deriving DecidableEq, Repr

/-- A network as the API sends it, with devices only if they were asked for. Members that the
monitor has no use for are kept. -/
structure Network where
  uuid : String
  name : String
  plugin : String := ""
  enable : Option Bool := none
  devices : List Device := []
  extra : Members := []
deriving DecidableEq, Repr

namespace Point

def shape : Shape Point where
  name := "Point"
  blank := {}
  members :=
    [.of "uuid" .anywhere (Decoder.optional Decoder.text) fun s point => { point with uuid := s },
     .of "name" .anywhere (Decoder.optional Decoder.text) fun s point => { point with name := s },
     .of "enable" .anywhere (Decoder.optional Decoder.flag) fun b point =>
      { point with enable := b }]
  surplus := .dropped

def encode (point : Point) : Value :=
  .object
    [("uuid", .ofOption .text point.uuid), ("name", .ofOption .text point.name),
     ("enable", .ofOption .boolean point.enable)]

/-- A point that is not said to be enabled is not. -/
def config (point : Point) : PollAudit.Point := ⟨point.enable.getD false⟩

end Point

namespace Device

def shape : Shape Device where
  name := "Device"
  blank := {}
  members :=
    [.of "uuid" .anywhere (Decoder.optional Decoder.text) fun s device =>
      { device with uuid := s },
     .of "name" .anywhere (Decoder.optional Decoder.text) fun s device =>
      { device with name := s },
     .of "enable" .anywhere (Decoder.optional Decoder.flag) fun b device =>
      { device with enable := b },
     .of "points" .anywhere (Decoder.list Point.shape.decode) fun points device =>
      { device with points := points }]
  surplus := .dropped

def encode (device : Device) : Value :=
  .object
    [("uuid", .ofOption .text device.uuid), ("name", .ofOption .text device.name),
     ("enable", .ofOption .boolean device.enable),
     ("points", .ofList Point.encode device.points)]

def config (device : Device) : PollAudit.Device :=
  ⟨device.enable.getD false, device.points.map Point.config⟩

end Device

namespace Network

def shape : Shape Network where
  name := "Network"
  blank := { uuid := "", name := "" }
  members :=
    [.of "uuid" .refused Decoder.text fun s network => { network with uuid := s },
     .of "name" .refused Decoder.text fun s network => { network with name := s },
     .of "plugin_name" .anywhere Decoder.text fun s network => { network with plugin := s },
     .of "enable" .anywhere (Decoder.optional Decoder.flag) fun b network =>
      { network with enable := b },
     .of "devices" .anywhere (Decoder.list Device.shape.decode) fun devices network =>
      { network with devices := devices }]
  surplus := .kept fun key value network =>
    { network with extra := network.extra.set key value }

def encode (network : Network) : Value :=
  .object
    ([("uuid", .text network.uuid), ("name", .text network.name),
      ("plugin_name", .text network.plugin), ("enable", .ofOption .boolean network.enable),
      ("devices", .ofList Device.encode network.devices)] ++ network.extra)

def config (network : Network) : PollAudit.Network :=
  ⟨⟨network.uuid⟩, network.name, network.plugin, network.enable.getD false,
    network.devices.map Device.config⟩

def listing (network : Network) : Listing :=
  ⟨⟨network.uuid⟩, network.name, network.plugin, network.enable.getD false⟩

end Network

/-- Reads the reply to a request for networks. -/
def decodeNetworks : Decoder (List Network) := Decoder.list Network.shape.decode

end PollAudit.Wire
