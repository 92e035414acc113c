import PollAudit.Proofs.Json.Printer
import PollAudit.Proofs.Wire.Alike

open PollAudit.Json Document Decoder Shape

namespace PollAudit.Wire

/-- What the monitor makes of the networks in a reply. -/
def tree (networks : List Network) : List PollAudit.Network × List Listing :=
  (networks.map Network.config, networks.map Network.listing)

section Conversion

variable {text text' : String} {document document' : Document} (hsaid : document.IsSaidBy text)
  (hsaid' : document'.IsSaidBy text')

include hsaid hsaid'

/-- What is made of the core of a record is the same for texts that are read with the same core. -/
theorem map_run_eq {α β : Type} {decoder : Decoder α} {core : α → α} {convert : α → β}
    (hsteady : decoder.IsSteady) (hcore : ∀ a, convert (core a) = convert a)
    (h : (decoder.meaning depthLimit document).map core = (decoder.meaning depthLimit document').map core) :
    (decoder.run text).toOption.map convert = (decoder.run text').toOption.map convert := by
  have hconvert (found : Option α) : found.map convert = (found.map core).map convert := by
    rw [Option.map_map]
    exact congrArg (Option.map · found) (funext hcore).symm
  rw [(hsteady.gives _ _).run hsaid, (hsteady.gives _ _).run hsaid', hconvert, h, ← hconvert]

private theorem tree_eq_of_alike
    (h : AlikeLists (AlikeNetworks (IsKeepable 2)) document document') :
    (decodeNetworks.run text).toOption.map tree = (decodeNetworks.run text').toOption.map tree := by
  have hcore (networks : List Network) : tree (networks.map Network.core) = tree networks := by
    rw [tree, tree, List.map_map, List.map_map]
    rfl
  have hsteady := Shape.isSteady_decode Network.hasCore.steady
  exact map_run_eq hsaid hsaid' hsteady.list hcore
    (h.meaning_eq hsteady AlikeNetworks.meaning_eq hsaid.isSayable hsaid'.isSayable)

private theorem live_eq_of_alike (h : AlikeStats (IsKeepable 1) document document') :
    (QueueStats.shape.decode.run text).toOption.map QueueStats.live =
      (QueueStats.shape.decode.run text').toOption.map QueueStats.live := by
  have hcore (stats : QueueStats) : stats.core.live = stats.live := rfl
  exact map_run_eq hsaid hsaid' (Shape.isSteady_decode QueueStats.hasCore.steady) hcore
    (h.meaning_eq hsaid.isSayable hsaid'.isSayable)

end Conversion

/-- Replies that are alike make no difference to the monitor, and neither does null in place of a
member that may be missing. -/
theorem replies_of_alike :
    (∀ {text text' : String} {document document' : Document}, document.IsSaidBy text →
      document'.IsSaidBy text' → AlikeLists (AlikeNetworks (IsKeepable 2)) document document' →
      (decodeNetworks.run text).toOption.map tree = (decodeNetworks.run text').toOption.map tree) ∧
    (∀ {text text' : String} {document document' : Document}, document.IsSaidBy text →
      document'.IsSaidBy text' → AlikeStats (IsKeepable 1) document document' →
      (QueueStats.shape.decode.run text).toOption.map QueueStats.live =
        (QueueStats.shape.decode.run text').toOption.map QueueStats.live) ∧
    (∀ key ∈ Network.optionalKeys, Network.shape.IgnoresNull key) ∧
    (∀ key ∈ QueueStats.optionalKeys, QueueStats.shape.IgnoresNull key) ∧
    (∀ key ∈ Device.optionalKeys, Device.shape.IgnoresNull key) ∧
    ∀ key ∈ Point.optionalKeys, Point.shape.IgnoresNull key :=
  ⟨tree_eq_of_alike, live_eq_of_alike, Network.ignoresNull, QueueStats.ignoresNull, Device.ignoresNull,
    Point.ignoresNull⟩

/-- A record that ends with a member that is null is read as without the member. -/
theorem found?_append_null {α : Type} {shape : Shape α} {key : String} (h : shape.IgnoresNull key)
    {members : Members} (hmembers : (Value.object members).IsIntegral)
    (hkey : ∀ entry ∈ entries members, entry.1 ≠ some key) (room : Nat) :
    (shape.decode room).found? (Value.object (members ++ [(key, .null)])).print =
      (shape.decode room).found? (Value.object members).print := by
  have hnull : (Value.object [(key, .null)]).IsIntegral := .object (List.forall_mem_singleton.mpr .null)
  have hdoc := (Value.isIntegral_append hmembers hnull).says_whole
  have hdoc' := hmembers.says_whole
  rw [Value.document, entries_append] at hdoc
  rw [Value.document, ← List.append_nil (entries members)] at hdoc'
  rw [← List.append_nil (entries members)] at hkey
  exact h hkey hdoc hdoc'

/-- Members in another order, with foreign ones in front. -/
theorem entries_reverse_perm (members extra : Members) :
    (entries (members ++ extra)).Perm (entries extra ++ entries members.reverse) := by
  rw [← entries_append, entries_eq_map, entries_eq_map]
  exact (List.perm_append_comm.trans ((List.reverse_perm members).symm.append_left extra)).map _

/-- Foreign members and another order in replies, and members that are null. -/
theorem replies_of_reordered :
    let extra : Members := [("x", .list [.null])]
    let network : Members := [("name", .text "b"), ("uuid", .text "a")]
    let stats : Members :=
      [("total_points_out_for_polling", .ofInt 3), ("total_standby_points_length", .ofInt (-2)),
       ("total_poll_queue_length", .ofInt 1), ("enable", .boolean true)]
    (decodeNetworks.run (Value.list [.object (network ++ extra)]).render).toOption.map tree =
        (decodeNetworks.run (Value.list [.object network.reverse]).render).toOption.map tree ∧
      (decodeNetworks.run (Value.list [.object network.reverse]).render).toOption.isSome = true ∧
      (QueueStats.shape.decode.run (Value.object (stats ++ extra)).render).toOption.map QueueStats.live =
        (QueueStats.shape.decode.run (Value.object stats.reverse).render).toOption.map QueueStats.live ∧
      (QueueStats.shape.decode.run (Value.object stats.reverse).render).toOption.isSome = true ∧
      (Network.shape.decode 2).found? (Value.object (network ++ [("enable", .null)])).print =
        (Network.shape.decode 2).found? (Value.object network).print ∧
      (QueueStats.shape.decode 2).found? (Value.object (stats ++ [("busy_time", .null)])).print =
        (QueueStats.shape.decode 2).found? (Value.object stats).print ∧
      (Device.shape.decode 2).found? (Value.object [("enable", .null)]).print =
        (Device.shape.decode 2).found? (Value.object []).print ∧
      (Point.shape.decode 2).found? (Value.object [("uuid", .null)]).print =
        (Point.shape.decode 2).found? (Value.object []).print := by
  intro extra network stats
  obtain ⟨htree, hlive, hnetworkNull, hstatsNull, hdeviceNull, hpointNull⟩ := replies_of_alike
  have hextra : (Value.object extra).IsIntegral :=
    .object (List.forall_mem_singleton.mpr (.list (List.forall_mem_singleton.mpr .null)))
  have hnetwork : ∀ member ∈ network, member.2.IsIntegral :=
    List.forall_mem_cons.mpr ⟨.text "b", List.forall_mem_singleton.mpr (.text "a")⟩
  have hstats : ∀ member ∈ stats, member.2.IsIntegral := by
    simp only [stats, List.forall_mem_cons]
    refine ⟨.integer ⟨?_, ?_⟩, .integer ⟨?_, ?_⟩, .integer ⟨?_, ?_⟩, .boolean true, nofun⟩
    all_goals decide
  have hempty : (Value.object []).IsIntegral := .object nofun
  refine ⟨?_, by decide +kernel, ?_, by decide +kernel,
    found?_append_null (hnetworkNull "enable" (by decide)) (.object hnetwork) (by decide) 2,
    found?_append_null (hstatsNull "busy_time" (by decide)) (.object hstats) (by decide) 2,
    found?_append_null (hdeviceNull "enable" (by decide)) hempty nofun 2,
    found?_append_null (hpointNull "uuid" (by decide)) hempty nofun 2⟩
  · have hwhole := Value.IsIntegral.list
      (List.forall_mem_singleton.mpr (Value.isIntegral_append (.object hnetwork) hextra))
    have hwhole' := Value.IsIntegral.list (List.forall_mem_singleton.mpr (.object
      fun member hmember => hnetwork member (List.mem_reverse.mp hmember)))
    refine htree hwhole.isSaidBy hwhole'.isSaidBy (.list (.cons (.object ?_) .nil))
    refine .of_perm (entries_reverse_perm network extra) (List.forall_mem_singleton.mpr ?_)
      (List.forall_mem_singleton.mpr ⟨nofun, by decide⟩) (by decide) fun key _ => ?_
    · rintro _ ⟨⟩
      decide
    · split
      · exact .same _
      · rfl
  · have hwhole := Value.isIntegral_append (.object hstats) hextra
    have hwhole' : (Value.object stats.reverse).IsIntegral :=
      .object fun member hmember => hstats member (List.mem_reverse.mp hmember)
    refine hlive hwhole.isSaidBy hwhole'.isSaidBy (.object ?_)
    refine .of_perm (entries_reverse_perm stats extra) (List.forall_mem_singleton.mpr ?_)
      (List.forall_mem_singleton.mpr ⟨nofun, by decide⟩) (by decide) fun _ _ => rfl
    rintro _ ⟨⟩
    decide

/-- A name that is half of a character is enough to refuse a reply, whatever value stands under
it. -/
theorem refused_of_halfCharacter :
    ∃ document document' : Document,
      document.IsSaidBy "[\x7b\"uuid\":\"a\",\"name\":\"b\",\"\\ud800\":null\x7d]" ∧
      document'.IsSaidBy "[\x7b\"uuid\":\"a\",\"name\":\"b\"\x7d]" ∧
      AlikeLists (AlikeNetworks fun member => member.2.value? (depthLimit - 2) ≠ none) document document' ∧
      (decodeNetworks.run "[\x7b\"uuid\":\"a\",\"name\":\"b\",\"\\ud800\":null\x7d]").toOption.isSome = false ∧
      (decodeNetworks.run "[\x7b\"uuid\":\"a\",\"name\":\"b\"\x7d]").toOption.isSome = true := by
  let members : Entries := [(some "uuid", .text (some "a")), (some "name", .text (some "b"))]
  refine ⟨.list [.object (members ++ [(none, .null)])], .list [.object members], ?_, ?_, ?_, ?_, ?_⟩
  · have hname : Letters ['\\', 'u', 'd', '8', '0', '0', '"', ':', 'n', 'u', 'l', 'l', '\x7d', ']'] none
        [':', 'n', 'u', 'l', 'l', '\x7d', ']'] :=
      .lone (.mk rfl rfl rfl rfl) (.inr ⟨⟨by decide, by decide⟩, fun _ _ _ => nofun⟩) .close
    have hlast := Entry.mk hname (.none _) (.none _) Says.null
    have hmembers := Sequence.items (.none _) (entry_quoted "uuid" (says_quoted "a" _))
      (.comma (.none _) (.none _) (entry_quoted "name" (says_quoted "b" _))
        (.comma (.none _) (.none _) hlast (.close (.none _))))
    have hdoc := Says.list (.items (.none _) (.object hmembers) (.close (.none _)))
    exact ⟨_, [], .none _, hdoc, .none []⟩
  · have hmembers : ∀ member ∈ [("uuid", Value.text "a"), ("name", .text "b")], member.2.IsIntegral :=
      List.forall_mem_cons.mpr ⟨.text "a", List.forall_mem_singleton.mpr (.text "b")⟩
    exact (Value.IsIntegral.list (List.forall_mem_singleton.mpr (.object hmembers))).isSaidBy
  · have hforeign : ∀ entry ∈ [((none : Option String), Document.null)], Network.shape.IsForeign entry :=
      List.forall_mem_singleton.mpr nofun
    refine .list (.cons (.object (.of_perm List.perm_append_comm hforeign ?_ ?_ fun key _ => ?_)) .nil)
    · exact List.forall_mem_singleton.mpr (by decide)
    · decide
    · split
      · exact .same _
      · rfl
  · decide +kernel
  · decide +kernel

end PollAudit.Wire
