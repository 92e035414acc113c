import PollAudit.Proofs.Json.Null
import PollAudit.Wire.Stats
import PollAudit.Wire.Tree

open PollAudit.Json Document Decoder

namespace PollAudit.Wire

theorem Point.hasCore : Point.shape.HasCore id where
  fits := by
    simp only [Point.shape, List.forall_mem_cons]
    refine ⟨.of_dropped ?_ (fun _ _ => rfl) rfl, .of_dropped ?_ (fun _ _ => rfl) rfl,
      .of_dropped ?_ (fun _ _ => rfl) rfl, nofun⟩
    exacts [isSteady_text.optional, isSteady_text.optional, isSteady_flag.optional]
  commute := by
    simp only [Point.shape, List.pairwise_cons, List.forall_mem_cons]
    refine ⟨⟨?_, ?_, nofun⟩, ⟨?_, nofun⟩, nofun, .nil⟩
    all_goals exact Member.commutes_of fun _ _ _ => rfl
  core_keep := nofun

theorem Device.hasCore : Device.shape.HasCore id where
  fits := by
    simp only [Device.shape, List.forall_mem_cons]
    refine ⟨.of_dropped ?_ (fun _ _ => rfl) rfl, .of_dropped ?_ (fun _ _ => rfl) rfl,
      .of_dropped ?_ (fun _ _ => rfl) rfl, .of_dropped ?_ (fun _ _ => rfl) rfl, nofun⟩
    exacts [isSteady_text.optional, isSteady_text.optional, isSteady_flag.optional,
      (Shape.isSteady_decode Point.hasCore.steady).list]
  commute := by
    simp only [Device.shape, List.pairwise_cons, List.forall_mem_cons]
    refine ⟨⟨?_, ?_, ?_, nofun⟩, ⟨?_, ?_, nofun⟩, ⟨?_, nofun⟩, nofun, .nil⟩
    all_goals exact Member.commutes_of fun _ _ _ => rfl
  core_keep := nofun

/-- A network without the members that the monitor has no use for. -/
def Network.core (network : Network) : Network := { network with extra := [] }

/-- What matters of a network is all of it but the members that are kept. -/
theorem Network.hasCore : Network.shape.HasCore Network.core where
  fits := by
    simp only [Network.shape, List.forall_mem_cons]
    refine ⟨.of_kept ?_ (fun _ _ => rfl) rfl (fun _ _ _ _ => rfl),
      .of_kept ?_ (fun _ _ => rfl) rfl (fun _ _ _ _ => rfl),
      .of_kept ?_ (fun _ _ => rfl) rfl (fun _ _ _ _ => rfl),
      .of_kept ?_ (fun _ _ => rfl) rfl (fun _ _ _ _ => rfl),
      .of_kept ?_ (fun _ _ => rfl) rfl (fun _ _ _ _ => rfl), nofun⟩
    exacts [isSteady_text, isSteady_text, isSteady_text, isSteady_flag.optional,
      (Shape.isSteady_decode Device.hasCore.steady).list]
  commute := by
    simp only [Network.shape, List.pairwise_cons, List.forall_mem_cons]
    refine ⟨⟨?_, ?_, ?_, ?_, nofun⟩, ⟨?_, ?_, ?_, nofun⟩, ⟨?_, ?_, nofun⟩, ⟨?_, nofun⟩, nofun, .nil⟩
    all_goals exact Member.commutes_of fun _ _ _ => rfl
  core_keep := by
    rintro _ ⟨⟩ _ _ _
    rfl

/-- Statistics without the members that the monitor has no use for. -/
def QueueStats.core (stats : QueueStats) : QueueStats := { stats with extra := [] }

/-- What matters of statistics is all of them but the members that are kept. -/
theorem QueueStats.hasCore : QueueStats.shape.HasCore QueueStats.core where
  fits := by
    simp only [QueueStats.shape, List.forall_mem_cons, List.not_mem_nil, false_implies, implies_true,
      and_true]
    refine ⟨?_, ?_, ?_, ?_, ?_, ?_, ?_, ?_, ?_, ?_, ?_, ?_, ?_, ?_, ?_, ?_, ?_, ?_⟩
    all_goals refine .of_kept ?_ (fun _ _ => rfl) rfl fun _ _ _ _ => rfl
    all_goals first
      | exact isSteady_flag
      | exact isSteady_text.optional
      | exact isSteady_integer _ _ _
  commute := by
    simp only [QueueStats.shape, List.pairwise_cons, List.forall_mem_cons, List.not_mem_nil,
      false_implies, implies_true, List.Pairwise.nil, and_true]
    repeat' apply And.intro
    all_goals exact Member.commutes_of fun _ _ _ => rfl
  core_keep := by
    rintro _ ⟨⟩ _ _ _
    rfl

section Null

/-- The members of a point that may be null. -/
def Point.optionalKeys : List String := ["uuid", "name", "enable"]

def Device.optionalKeys : List String := ["uuid", "name", "enable"]

def Network.optionalKeys : List String := ["enable"]

def QueueStats.optionalKeys : List String :=
  ["network_name", "plugin_name", "average_poll_execute_time", "busy_time", "enabled_time"]

theorem Point.ignoresNull : ∀ key ∈ Point.optionalKeys, Point.shape.IgnoresNull key := by
  have hkeys : (Point.shape.members.map Member.key).Nodup := by decide
  simp only [Point.optionalKeys, List.forall_mem_cons, List.not_mem_nil, false_implies, implies_true,
    and_true]
  refine ⟨?_, ?_, ?_⟩
  · exact hasCore.ignoresNull (.of_optional hkeys (List.mem_of_getElem? (i := 0) rfl) nofun rfl)
  · exact hasCore.ignoresNull (.of_optional hkeys (List.mem_of_getElem? (i := 1) rfl) nofun rfl)
  · exact hasCore.ignoresNull (.of_optional hkeys (List.mem_of_getElem? (i := 2) rfl) nofun rfl)

theorem Device.ignoresNull : ∀ key ∈ Device.optionalKeys, Device.shape.IgnoresNull key := by
  have hkeys : (Device.shape.members.map Member.key).Nodup := by decide
  simp only [Device.optionalKeys, List.forall_mem_cons, List.not_mem_nil, false_implies, implies_true,
    and_true]
  refine ⟨?_, ?_, ?_⟩
  · exact hasCore.ignoresNull (.of_optional hkeys (List.mem_of_getElem? (i := 0) rfl) nofun rfl)
  · exact hasCore.ignoresNull (.of_optional hkeys (List.mem_of_getElem? (i := 1) rfl) nofun rfl)
  · exact hasCore.ignoresNull (.of_optional hkeys (List.mem_of_getElem? (i := 2) rfl) nofun rfl)

/-- Null says no more of an optional member of a network than its absence. -/
theorem Network.ignoresNull : ∀ key ∈ Network.optionalKeys, Network.shape.IgnoresNull key := by
  have hkeys : (Network.shape.members.map Member.key).Nodup := by decide
  simp only [Network.optionalKeys, List.forall_mem_cons, List.not_mem_nil, false_implies,
    implies_true, and_true]
  exact hasCore.ignoresNull (.of_optional hkeys (List.mem_of_getElem? (i := 3) rfl) nofun rfl)

/-- Null says no more of an optional member of statistics than its absence. -/
theorem QueueStats.ignoresNull : ∀ key ∈ QueueStats.optionalKeys, QueueStats.shape.IgnoresNull key := by
  have hkeys : (QueueStats.shape.members.map Member.key).Nodup := by decide
  simp only [QueueStats.optionalKeys, List.forall_mem_cons, List.not_mem_nil, false_implies,
    implies_true, and_true]
  refine ⟨?_, ?_, ?_, ?_, ?_⟩
  · exact hasCore.ignoresNull (.of_optional hkeys (List.mem_of_getElem? (i := 1) rfl) nofun rfl)
  · exact hasCore.ignoresNull (.of_optional hkeys (List.mem_of_getElem? (i := 2) rfl) nofun rfl)
  · exact hasCore.ignoresNull (.of_optional hkeys (List.mem_of_getElem? (i := 15) rfl) nofun rfl)
  · exact hasCore.ignoresNull (.of_optional hkeys (List.mem_of_getElem? (i := 16) rfl) nofun rfl)
  · exact hasCore.ignoresNull (.of_optional hkeys (List.mem_of_getElem? (i := 17) rfl) nofun rfl)

end Null

section Alike

/-- Points that agree in their uuid, name and flag. Their other members have names. -/
def AlikePoints : Document → Document → Prop :=
  Point.shape.Alike (fun member => member.1 ≠ none) fun _ => Eq

/-- Devices that agree in their uuid, name and flag and have points that are alike in turn. -/
def AlikeDevices : Document → Document → Prop :=
  Device.shape.Alike (fun member => member.1 ≠ none) fun key =>
    if key = "points" then AlikeLists AlikePoints else Eq

/-- Networks that agree in what is read of them and have devices that are alike in turn. Of their
other members, the ones that are acceptable may differ. -/
def AlikeNetworks (acceptable : Option String × Document → Prop) : Document → Document → Prop :=
  Network.shape.Alike acceptable fun key => if key = "devices" then AlikeLists AlikeDevices else Eq

/-- Statistics that agree in what is read of them. -/
def AlikeStats (acceptable : Option String × Document → Prop) : Document → Document → Prop :=
  QueueStats.shape.Alike acceptable fun _ => Eq

/-- A member that can be kept where it stands, inside of some lists and objects: it has a name and a
value. -/
def IsKeepable (opened : Nat) (member : Option String × Document) : Prop :=
  member.1 ≠ none ∧ member.2.value? (depthLimit - opened) ≠ none

variable {room : Nat} {document document' : Document} (hsayable : document.IsSayable)
  (hsayable' : document'.IsSayable)

include hsayable hsayable'

private theorem AlikePoints.meaning_eq (h : AlikePoints document document') :
    Point.shape.decode.meaning room document = Point.shape.decode.meaning room document' := by
  refine Option.map_injective Function.injective_id ?_
  refine Shape.Alike.meaning_eq h Point.hasCore (fun _ hname => ⟨hname, nofun⟩) ?_ hsayable hsayable'
  exact fun _ _ _ _ _ _ _ heq => congrArg _ heq

private theorem AlikeDevices.meaning_eq (h : AlikeDevices document document') :
    Device.shape.decode.meaning room document = Device.shape.decode.meaning room document' := by
  refine Option.map_injective Function.injective_id ?_
  refine Shape.Alike.meaning_eq h Device.hasCore (fun _ hname => ⟨hname, nofun⟩) ?_ hsayable hsayable'
  intro room
  simp only [Device.shape, List.forall_mem_cons]
  refine ⟨fun _ _ heq => congrArg _ heq, fun _ _ heq => congrArg _ heq,
    fun _ _ heq => congrArg _ heq, fun hpoints hpoints' halike => ?_, nofun⟩
  have hsteady := Shape.isSteady_decode Point.hasCore.steady
  exact Member.meaning_congr hsteady.list hpoints hpoints'
    (AlikeLists.meaning_congr halike hsteady AlikePoints.meaning_eq hpoints hpoints')

/-- Networks that are said alike are decoded alike but for the members that are kept. -/
theorem AlikeNetworks.meaning_eq (h : AlikeNetworks (IsKeepable 2) document document') :
    (Network.shape.decode.meaning (depthLimit - 1) document).map Network.core =
      (Network.shape.decode.meaning (depthLimit - 1) document').map Network.core := by
  refine Shape.Alike.meaning_eq h Network.hasCore (fun _ hkeep => ⟨hkeep.1, fun _ _ => hkeep.2⟩) ?_
    hsayable hsayable'
  intro room
  simp only [Network.shape, List.forall_mem_cons]
  refine ⟨fun _ _ heq => congrArg _ heq, fun _ _ heq => congrArg _ heq,
    fun _ _ heq => congrArg _ heq, fun _ _ heq => congrArg _ heq,
    fun hdevices hdevices' halike => ?_, nofun⟩
  have hsteady := Shape.isSteady_decode Device.hasCore.steady
  exact Member.meaning_congr hsteady.list hdevices hdevices'
    (AlikeLists.meaning_congr halike hsteady AlikeDevices.meaning_eq hdevices hdevices')

/-- Statistics that are said alike are decoded alike but for the members that are kept. -/
theorem AlikeStats.meaning_eq (h : AlikeStats (IsKeepable 1) document document') :
    (QueueStats.shape.decode.meaning depthLimit document).map QueueStats.core =
      (QueueStats.shape.decode.meaning depthLimit document').map QueueStats.core := by
  refine Shape.Alike.meaning_eq h QueueStats.hasCore (fun _ hkeep => ⟨hkeep.1, fun _ _ => hkeep.2⟩) ?_
    hsayable hsayable'
  exact fun _ _ _ _ _ _ _ heq => congrArg _ heq

end Alike

end PollAudit.Wire
