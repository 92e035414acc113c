import PollAudit.Json.Shape
import PollAudit.Tree.Watched

open PollAudit.Json

namespace PollAudit

namespace NetworkId

def decode : Decoder NetworkId := fun room => NetworkId.mk <$> Decoder.text room

def encode (id : NetworkId) : Value := .text id.text

end NetworkId

namespace Point

def shape : Shape Point where
  name := "PointConfig"
  blank := ⟨false⟩
  members := [.of "enabled" .refused Decoder.flag fun b point => { point with enabled := b }]
  surplus := .dropped

def encode (point : Point) : Value := .object [("enabled", .boolean point.enabled)]

end Point

namespace Device

def shape : Shape Device where
  name := "DeviceConfig"
  blank := ⟨false, []⟩
  members :=
    [.of "enabled" .refused Decoder.flag fun b device => { device with enabled := b },
     .of "points" .refused (Decoder.list Point.shape.decode) fun points device =>
      { device with points := points }]
  surplus := .dropped

def encode (device : Device) : Value :=
  .object
    [("enabled", .boolean device.enabled), ("points", .ofList Point.encode device.points)]

end Device

namespace Network

def shape : Shape Network where
  name := "NetworkConfig"
  blank := ⟨⟨""⟩, "", "", false, []⟩
  members :=
    [.of "id" .refused NetworkId.decode fun id network => { network with id := id },
     .of "name" .refused Decoder.text fun s network => { network with name := s },
     .of "plugin_kind" .refused Decoder.text fun s network => { network with plugin := s },
     .of "enabled" .refused Decoder.flag fun b network => { network with enabled := b },
     .of "devices" .refused (Decoder.list Device.shape.decode) fun devices network =>
      { network with devices := devices }]
  surplus := .dropped

def encode (network : Network) : Value :=
  .object
    [("id", network.id.encode), ("name", .text network.name),
     ("plugin_kind", .text network.plugin), ("enabled", .boolean network.enabled),
     ("devices", .ofList Device.encode network.devices)]

end Network

namespace Listing

def shape : Shape Listing where
  name := "NetworkSummary"
  blank := ⟨⟨""⟩, "", "", false⟩
  members :=
    [.of "id" .refused NetworkId.decode fun id listing => { listing with id := id },
     .of "name" .refused Decoder.text fun s listing => { listing with name := s },
     .of "plugin_kind" .refused Decoder.text fun s listing => { listing with plugin := s },
     .of "enabled" .refused Decoder.flag fun b listing => { listing with enabled := b }]
  surplus := .dropped

def encode (listing : Listing) : Value :=
  .object
    [("id", listing.id.encode), ("name", .text listing.name),
     ("plugin_kind", .text listing.plugin), ("enabled", .boolean listing.enabled)]

end Listing

namespace Snapshot

def shape : Shape Snapshot where
  name := "Snapshot"
  blank := ⟨[]⟩
  members :=
    [.of "networks" .refused (Decoder.list Network.shape.decode) fun networks _ => ⟨networks⟩]
  surplus := .dropped

def encode (snapshot : Snapshot) : Value :=
  .object [("networks", .ofList Network.encode snapshot.networks)]

end Snapshot

namespace Watch

def shape : Shape Watch where
  name := "MonitoredNetwork"
  blank := ⟨⟨""⟩, ""⟩
  members :=
    [.of "id" .refused NetworkId.decode fun id watch => { watch with id := id },
     .of "name" .refused Decoder.text fun s watch => { watch with name := s }]
  surplus := .dropped

def encode (watch : Watch) : Value :=
  .object [("id", watch.id.encode), ("name", .text watch.name)]

end Watch

namespace Watched

def shape : Shape Watched where
  name := "MonitoredNetworks"
  blank := ⟨[]⟩
  members :=
    [.of "entries" .refused (Decoder.list Watch.shape.decode) fun entries _ => ⟨entries⟩]
  surplus := .dropped

def encode (watched : Watched) : Value :=
  .object [("entries", .ofList Watch.encode watched.entries)]

end Watched

end PollAudit
