import PollAudit.Codec.Tree
import PollAudit.Proofs.Json.Restores

open PollAudit.Json Decoder Shape

namespace PollAudit

variable (depth : Nat)

private theorem NetworkId.isSteady_decode : NetworkId.decode.IsSteady :=
  isSteady_text.map NetworkId.mk

/-- An identifier is restored from its text. -/
theorem NetworkId.restores (id : NetworkId) : NetworkId.decode.Restores NetworkId.encode depth id :=
  ⟨.text id.text, fun room _ => (text_gives room (some id.text)).map NetworkId.mk⟩

private theorem Point.isSteady : Point.shape.IsSteady := by
  simp only [Shape.IsSteady, Point.shape, List.forall_mem_cons]
  exact ⟨isSteady_flag.map _, nofun⟩

/-- A point is one object, with no more levels below it. -/
theorem Point.restores (point : Point) : Point.shape.decode.Restores Point.encode (depth + 1) point :=
  restores_of_fields isSteady (by decide) (.cons (restores_flag _) .nil) rfl rfl

private theorem Device.isSteady : Device.shape.IsSteady := by
  simp only [Shape.IsSteady, Device.shape, List.forall_mem_cons]
  exact ⟨isSteady_flag.map _, (isSteady_decode Point.isSteady).list.map _, nofun⟩

/-- A device is two levels above its points: its object and the list in it. -/
theorem Device.restores (device : Device) :
    Device.shape.decode.Restores Device.encode (depth + 3) device := by
  have hpoints : (list Point.shape.decode).Restores (.ofList Point.encode) (depth + 2) device.points :=
    restores_list (isSteady_decode Point.isSteady) fun point _ => point.restores depth
  exact restores_of_fields isSteady (by decide) (.cons (restores_flag _) (.cons hpoints .nil)) rfl rfl

private theorem Network.isSteady : Network.shape.IsSteady := by
  simp only [Shape.IsSteady, Network.shape, List.forall_mem_cons]
  exact ⟨NetworkId.isSteady_decode.map _, isSteady_text.map _, isSteady_text.map _, isSteady_flag.map _,
    (isSteady_decode Device.isSteady).list.map _, nofun⟩

/-- A network is two levels above its devices. -/
theorem Network.restores (network : Network) :
    Network.shape.decode.Restores Network.encode (depth + 5) network := by
  have hdevices : (list Device.shape.decode).Restores (.ofList Device.encode) (depth + 4) network.devices :=
    restores_list (isSteady_decode Device.isSteady) fun device _ => device.restores depth
  exact restores_of_fields isSteady (by decide)
    (.cons (network.id.restores _) <| .cons (restores_text _) <| .cons (restores_text _) <|
    .cons (restores_flag _) <| .cons hdevices .nil)
    rfl rfl

private theorem Listing.isSteady : Listing.shape.IsSteady := by
  simp only [Shape.IsSteady, Listing.shape, List.forall_mem_cons]
  exact ⟨NetworkId.isSteady_decode.map _, isSteady_text.map _, isSteady_text.map _, isSteady_flag.map _,
    nofun⟩

theorem Listing.restores (listing : Listing) :
    Listing.shape.decode.Restores Listing.encode (depth + 1) listing := by
  exact restores_of_fields isSteady (by decide)
    (.cons (listing.id.restores _) <| .cons (restores_text _) <| .cons (restores_text _) <|
    .cons (restores_flag _) .nil)
    rfl rfl

private theorem Snapshot.isSteady : Snapshot.shape.IsSteady := by
  simp only [Shape.IsSteady, Snapshot.shape, List.forall_mem_cons]
  exact ⟨(isSteady_decode Network.isSteady).list.map _, nofun⟩

/-- A snapshot is two levels above its networks. -/
theorem Snapshot.restores (snapshot : Snapshot) :
    Snapshot.shape.decode.Restores Snapshot.encode (depth + 7) snapshot := by
  have hnetworks : (list Network.shape.decode).Restores (.ofList Network.encode) (depth + 6)
      snapshot.networks :=
    restores_list (isSteady_decode Network.isSteady) fun network _ => network.restores depth
  exact restores_of_fields isSteady (by decide) (.cons hnetworks .nil) rfl rfl

private theorem Watch.isSteady : Watch.shape.IsSteady := by
  simp only [Shape.IsSteady, Watch.shape, List.forall_mem_cons]
  exact ⟨NetworkId.isSteady_decode.map _, isSteady_text.map _, nofun⟩

private theorem Watch.restores (watch : Watch) :
    Watch.shape.decode.Restores Watch.encode (depth + 1) watch :=
  restores_of_fields isSteady (by decide)
    (.cons (watch.id.restores _) (.cons (restores_text _) .nil)) rfl rfl

private theorem Watched.isSteady : Watched.shape.IsSteady := by
  simp only [Shape.IsSteady, Watched.shape, List.forall_mem_cons]
  exact ⟨(isSteady_decode Watch.isSteady).list.map _, nofun⟩

/-- The watched networks are a list of objects in an object. -/
theorem Watched.restores (watched : Watched) :
    Watched.shape.decode.Restores Watched.encode (depth + 3) watched := by
  have hentries : (list Watch.shape.decode).Restores (.ofList Watch.encode) (depth + 2) watched.entries :=
    restores_list (isSteady_decode Watch.isSteady) fun watch _ => watch.restores depth
  exact restores_of_fields isSteady (by decide) (.cons hentries .nil) rfl rfl

end PollAudit
