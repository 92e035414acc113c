import PollAudit.Proofs.Codec.Polling
import PollAudit.Proofs.Codec.Tree
import PollAudit.Proofs.Json.Yields
import PollAudit.Proofs.Wire.Alike

open PollAudit.Json Reader Decoder Shape

namespace PollAudit.Wire

variable (depth : Nat)

private theorem restores_optionalText (s : Option String) :
    (optional Decoder.text).Restores (.ofOption .text) depth s :=
  restores_optional (fun _ => nofun) restores_text

private theorem restores_optionalFlag (b : Option Bool) :
    (optional Decoder.flag).Restores (.ofOption .boolean) depth b :=
  restores_optional (fun _ => nofun) restores_flag

private theorem Point.restores (point : Point) :
    Point.shape.decode.Restores Point.encode (depth + 1) point :=
  restores_of_fields hasCore.steady (by decide)
    (.cons (restores_optionalText _ _) <| .cons (restores_optionalText _ _) <|
      .cons (restores_optionalFlag _ _) .nil)
    rfl rfl

private theorem Device.restores (device : Device) :
    Device.shape.decode.Restores Device.encode (depth + 3) device := by
  have hpoints : (list Point.shape.decode).Restores (.ofList Point.encode) (depth + 2) device.points :=
    restores_list (isSteady_decode Point.hasCore.steady) fun point _ => point.restores depth
  exact restores_of_fields hasCore.steady (by decide)
    (.cons (restores_optionalText _ _) <| .cons (restores_optionalText _ _) <|
      .cons (restores_optionalFlag _ _) <| .cons hpoints .nil)
    rfl rfl

/-- Members of which none is a floating-point number or has one in it. -/
def AreExact (members : Members) : Prop := ∀ member ∈ members, ¬ member.2.HasReal

/-- A record that was read with foreign members, which are put behind one another again. -/
theorem restores_of_hasKept {α : Type} {shape : Shape α} {fields extra : Members} {effects : α → α}
    {keep : String → Value → α → α} {encode : α → Value} {a : α} {depth : Nat} (hsteady : shape.IsSteady)
    (hkeys : (shape.members.map Member.key).Nodup) (h : Fields depth shape.members fields effects)
    (hsurplus : shape.surplus = .kept keep) (hkept : shape.HasKept (depth + 1) extra)
    (hexact : AreExact extra) (hencode : encode a = .object (fields ++ extra)) (made : Members → α)
    (hkeep : ∀ key value members, keep key value (made members) = made (members.set key value))
    (hblank : effects shape.blank = made []) (ha : made extra = a) :
    shape.decode.Restores encode (depth + 1) a := by
  have hextra : ∀ member ∈ extra, member.2.Fits (depth + 1) ∧ member.2.IsIntegral := by
    intro member hmember
    obtain ⟨hfits, hread⟩ := hkept.read.values member hmember
    exact ⟨hfits, hread.resolve_left (hexact member hmember)⟩
  have hset : extra.foldl (fun (members : Members) member => members.set member.1 member.2) [] = extra :=
    Members.foldl_set hkept.read.keys
  refine restores_of_kept hsteady hkeys h hsurplus hkept.foreign hextra hencode ?_
  rw [hblank, ← ha]
  refine (List.foldl_hom made fun members member => hkeep member.1 member.2 members).trans ?_
  rw [hset]

namespace Network

private theorem restores {network : Network}
    (hkept : Network.shape.HasKept (depth + 5) network.extra)
    (hexact : AreExact network.extra) :
    Network.shape.decode.Restores Network.encode (depth + 5) network := by
  have hdevices : (list Device.shape.decode).Restores (.ofList Device.encode) (depth + 4) network.devices :=
    restores_list (isSteady_decode Device.hasCore.steady) fun device _ => device.restores depth
  exact restores_of_hasKept hasCore.steady (by decide)
    (.cons (restores_text _) <| .cons (restores_text _) <| .cons (restores_text _) <|
      .cons (restores_optionalFlag _ _) <| .cons hdevices .nil)
    rfl hkept hexact rfl (fun extra => { network with extra := extra }) (fun _ _ _ => rfl) rfl rfl

/-- What a network keeps besides its members was read where it stood. -/
theorem yields_decode (room : Nat) :
    (Network.shape.decode room).Yields fun network => Network.shape.HasKept (room - 1) network.extra := by
  refine Shape.yields_decode rfl (.nil _ _) ?_ ?_
  · simp only [Network.shape, List.forall_mem_cons]
    refine ⟨?_, ?_, ?_, ?_, ?_, List.forall_mem_nil _⟩
    all_goals exact yields_of (.trivial _) fun _ _ _ hmade => hmade
  · exact fun _ _ _ hforeign hvalue hmade => hmade.set hforeign hvalue

end Network

namespace QueueStats

/-- The counters are integers of 64 bits, and what is kept besides the members was read where it
stood. -/
structure IsRead (room : Nat) (stats : QueueStats) : Prop where
  queue : IsInt64 stats.queue
  standby : IsInt64 stats.standby
  outForPolling : IsInt64 stats.outForPolling
  asapQueue : IsInt64 stats.asapQueue
  highQueue : IsInt64 stats.highQueue
  normalQueue : IsInt64 stats.normalQueue
  lowQueue : IsInt64 stats.lowQueue
  polls : IsInt64 stats.polls
  kept : QueueStats.shape.HasKept room stats.extra

private theorem restores {stats : QueueStats} (h : stats.IsRead (depth + 1))
    (hexact : AreExact stats.extra) :
    QueueStats.shape.decode.Restores QueueStats.encode (depth + 1) stats :=
  restores_of_hasKept hasCore.steady (by decide)
    (.cons (restores_flag _) <| .cons (restores_optionalText _ _) <|
      .cons (restores_optionalText _ _) <| .cons (restores_int64 h.queue) <|
      .cons (restores_int64 h.standby) <| .cons (restores_int64 h.outForPolling) <|
      .cons (restores_int64 h.asapQueue) <| .cons (restores_int64 h.highQueue) <|
      .cons (restores_int64 h.normalQueue) <| .cons (restores_int64 h.lowQueue) <|
      .cons (restores_int64 h.polls) <| .cons (restores_flag _) <| .cons (restores_flag _) <|
      .cons (restores_flag _) <| .cons (restores_flag _) <| .cons (restores_optionalText _ _) <|
      .cons (restores_optionalText _ _) <| .cons (restores_optionalText _ _) .nil)
    rfl h.kept hexact rfl (fun extra => { stats with extra := extra }) (fun _ _ _ => rfl) rfl rfl

private theorem yields_decode (room : Nat) :
    (QueueStats.shape.decode room).Yields fun stats => stats.IsRead (room - 1) := by
  have hzero : IsInt64 0 := ⟨by decide, by decide⟩
  refine Shape.yields_decode rfl ?_ ?_ ?_
  · exact ⟨hzero, hzero, hzero, hzero, hzero, hzero, hzero, hzero, .nil _ _⟩
  · simp only [QueueStats.shape, List.forall_mem_cons]
    refine ⟨?_, ?_, ?_, ?_, ?_, ?_, ?_, ?_, ?_, ?_, ?_, ?_, ?_, ?_, ?_, ?_, ?_, ?_, List.forall_mem_nil _⟩
    · exact yields_of (.trivial _) fun _ _ _ hmade => { hmade with }
    · exact yields_of (.trivial _) fun _ _ _ hmade => { hmade with }
    · exact yields_of (.trivial _) fun _ _ _ hmade => { hmade with }
    · exact yields_of (yields_int64 _) fun _ hn _ hmade => { hmade with queue := hn }
    · exact yields_of (yields_int64 _) fun _ hn _ hmade => { hmade with standby := hn }
    · exact yields_of (yields_int64 _) fun _ hn _ hmade => { hmade with outForPolling := hn }
    · exact yields_of (yields_int64 _) fun _ hn _ hmade => { hmade with asapQueue := hn }
    · exact yields_of (yields_int64 _) fun _ hn _ hmade => { hmade with highQueue := hn }
    · exact yields_of (yields_int64 _) fun _ hn _ hmade => { hmade with normalQueue := hn }
    · exact yields_of (yields_int64 _) fun _ hn _ hmade => { hmade with lowQueue := hn }
    · exact yields_of (yields_int64 _) fun _ hn _ hmade => { hmade with polls := hn }
    all_goals exact yields_of (.trivial _) fun _ _ _ hmade => { hmade with }
  · exact fun _ _ _ hforeign hvalue hmade =>
      { hmade with kept := hmade.kept.set hforeign hvalue }

end QueueStats

/-- The members that networks keep besides those of the record were read with two brackets open
around them, and have none of its names. -/
theorem hasKept_of_networks {text : String} {networks : List Network}
    (h : decodeNetworks.run text = .ok networks) :
    ∀ network ∈ networks, Network.shape.HasKept (depthLimit - 2) network.extra :=
  Yields.run (yields_list (Network.yields_decode _)) h

/-- Statistics were read with one bracket open around their members. -/
theorem isRead_of_stats {text : String} {stats : QueueStats}
    (h : QueueStats.shape.decode.run text = .ok stats) : stats.IsRead (depthLimit - 1) :=
  Yields.run (QueueStats.yields_decode _) h

private theorem run_encode_networks {networks : List Network}
    (hkept : ∀ network ∈ networks, Network.shape.HasKept (depthLimit - 2) network.extra)
    (hexact : ∀ network ∈ networks, AreExact network.extra) :
    decodeNetworks.run (Value.ofList Network.encode networks).render = .ok networks := by
  have hrestores : decodeNetworks.Restores (.ofList Network.encode) (121 + 6) networks :=
    restores_list (isSteady_decode Network.hasCore.steady) fun network hnetwork =>
      Network.restores 121 (hkept network hnetwork) (hexact network hnetwork)
  exact hrestores.run (by decide)

end PollAudit.Wire

namespace PollAudit

/-- Every record of the domain is read back from its text, and so is whatever was read from a reply,
with the members that were kept, unless there are floating-point numbers among these. -/
theorem run_encode :
    (∀ id : NetworkId, NetworkId.decode.run id.encode.render = .ok id) ∧
    (∀ priority : Priority, Priority.decode.run priority.encode.render = .ok priority) ∧
    (∀ point : Point, Point.shape.decode.run point.encode.render = .ok point) ∧
    (∀ device : Device, Device.shape.decode.run device.encode.render = .ok device) ∧
    (∀ network : Network, Network.shape.decode.run network.encode.render = .ok network) ∧
    (∀ listing : Listing, Listing.shape.decode.run listing.encode.render = .ok listing) ∧
    (∀ snapshot : Snapshot, Snapshot.shape.decode.run snapshot.encode.render = .ok snapshot) ∧
    (∀ watched : Watched, Watched.shape.decode.run watched.encode.render = .ok watched) ∧
    (∀ lockups : Lockups, Lockups.shape.decode.run lockups.encode.render = .ok lockups) ∧
    (∀ lengths : QueueLengths, QueueLengths.shape.decode.run lengths.encode.render = .ok lengths) ∧
    (∀ stats : LiveStats, LiveStats.shape.decode.run stats.encode.render = .ok stats) ∧
    (∀ sum : Aggregate, Aggregate.shape.decode.run sum.encode.render = .ok sum) ∧
    (∀ point : Wire.Point, Wire.Point.shape.decode.run point.encode.render = .ok point) ∧
    (∀ device : Wire.Device, Wire.Device.shape.decode.run device.encode.render = .ok device) ∧
    (∀ text networks, Wire.decodeNetworks.run text = .ok networks →
      (∀ network ∈ networks, Wire.AreExact network.extra) →
      Wire.decodeNetworks.run (Value.ofList Wire.Network.encode networks).render = .ok networks ∧
        ∀ network ∈ networks, ∀ member ∈ network.extra, Wire.Network.shape.models member.1 = false) ∧
    (∀ text stats, Wire.QueueStats.shape.decode.run text = .ok stats → Wire.AreExact stats.extra →
      Wire.QueueStats.shape.decode.run stats.encode.render = .ok stats ∧
        ∀ member ∈ stats.extra, Wire.QueueStats.shape.models member.1 = false) := by
  refine ⟨fun id => (id.restores 0).run (by decide), fun priority => (priority.restores 0).run (by decide),
    fun point => (point.restores 0).run (by decide), fun device => (device.restores 0).run (by decide),
    fun network => (network.restores 0).run (by decide), fun listing => (listing.restores 0).run (by decide),
    fun snapshot => (snapshot.restores 0).run (by decide), fun watched => (watched.restores 0).run (by decide),
    fun lockups => (lockups.restores 0).run (by decide), fun lengths => (lengths.restores 0).run (by decide),
    fun stats => (stats.restores 0).run (by decide), fun sum => (sum.restores 0).run (by decide),
    fun point => (point.restores 0).run (by decide), fun device => (device.restores 0).run (by decide),
    fun text networks hrun hexact => ?_, fun text stats hrun hexact => ?_⟩
  · have hkept := Wire.hasKept_of_networks hrun
    exact ⟨Wire.run_encode_networks hkept hexact, fun network hnetwork => (hkept network hnetwork).foreign⟩
  · have hread := Wire.isRead_of_stats hrun
    exact ⟨(Wire.QueueStats.restores 126 hread hexact).run (by decide), hread.kept.foreign⟩

/-- A network that keeps an object and the least integer of 64 bits, and statistics that keep
nothing. -/
theorem run_encode_of_replies :
    let network : Wire.Network :=
      { uuid := "a", name := "é\n"
        extra := [("z", .object [("uuid", .list [.null])]), ("n", .ofInt (-9223372036854775808))] }
    (Wire.decodeNetworks.run
        "[\x7b\"name\":\"\\u00e9\\n\",\"z\":\x7b\"uuid\":[null]\x7d,\"uuid\":\"a\",\"n\":-9223372036854775808\x7d]" =
        .ok [network] ∧
      Wire.AreExact network.extra ∧
      Wire.decodeNetworks.run (Value.ofList Wire.Network.encode [network]).render = .ok [network]) ∧
    ∃ stats, Wire.QueueStats.shape.decode.run
        "\x7b\"enable\":true,\"total_poll_queue_length\":1,\"total_standby_points_length\":-2,\"total_points_out_for_polling\":3\x7d" =
        .ok stats ∧
      Wire.AreExact stats.extra ∧ Wire.QueueStats.shape.decode.run stats.encode.render = .ok stats := by
  intro network
  obtain ⟨-, -, -, -, -, -, -, -, -, -, -, -, -, -, hnetworks, hstats⟩ := run_encode
  have hinteger (n : Int) : ¬ (Value.ofInt n).HasReal := by
    rintro ⟨⟩
  have hnull : ¬ (Value.list [.null]).HasReal := by
    rintro (_ | ⟨⟨⟩ | ⟨_, ⟨⟩⟩, ⟨⟩⟩)
  have hobject : ¬ (Value.object [("uuid", .list [.null])]).HasReal := by
    rintro (_ | _ | ⟨⟨⟩ | ⟨_, ⟨⟩⟩, hreal⟩)
    exact hnull hreal
  have hexact : Wire.AreExact network.extra :=
    List.forall_mem_cons.mpr ⟨hobject, List.forall_mem_singleton.mpr (hinteger _)⟩
  have hread : ((Wire.QueueStats.shape.decode.run
      "\x7b\"enable\":true,\"total_poll_queue_length\":1,\"total_standby_points_length\":-2,\"total_points_out_for_polling\":3\x7d").toOption.any
      fun stats => stats.extra.isEmpty) = true := by
    decide +kernel
  obtain ⟨stats, hrun, hempty⟩ := (Option.any_eq_true _ _).mp hread
  have hexact' : Wire.AreExact stats.extra := by
    rw [List.isEmpty_iff.mp hempty]
    exact List.forall_mem_nil _
  refine ⟨⟨?networks, hexact, (hnetworks _ _ ?networks ?_).1⟩, stats, eq_ok_of_toOption hrun, hexact',
    (hstats _ _ (eq_ok_of_toOption hrun) hexact').1⟩
  · decide +kernel
  · exact List.forall_mem_singleton.mpr hexact

end PollAudit
