import PollAudit.Codec.Polling
import PollAudit.Proofs.Json.Restores

open PollAudit.Json Decoder Shape

namespace PollAudit

variable (depth : Nat)

/-- A priority is restored from its name, with no depth of its own. -/
theorem Priority.restores (priority : Priority) :
    Priority.decode.Restores Priority.encode depth priority := by
  refine ⟨.text priority.name, fun room _ => ?_⟩
  have hgives := choice_gives (all.map fun p => (p.name, p)) room (some priority.name)
  have hfind : ((all.map fun p => (p.name, p)).find? (·.1 == priority.name)).map Prod.snd =
      some priority := by
    cases priority <;> rfl
  rwa [Option.bind_some, hfind] at hgives

private theorem Lockups.isSteady : Lockups.shape.IsSteady := by
  simp only [Shape.IsSteady, Lockups.shape, List.forall_mem_cons]
  exact ⟨isSteady_flag.map _, isSteady_flag.map _, isSteady_flag.map _, isSteady_flag.map _, nofun⟩

theorem Lockups.restores (lockups : Lockups) :
    Lockups.shape.decode.Restores Lockups.encode (depth + 1) lockups := by
  exact restores_of_fields isSteady (by decide)
    (.cons (restores_flag _) <| .cons (restores_flag _) <| .cons (restores_flag _) <|
    .cons (restores_flag _) .nil)
    rfl rfl

private theorem Count.isSteady_decode : Count.decode.IsSteady := isSteady_count _

private theorem Count.restores (count : Count) : Count.decode.Restores Count.encode depth count :=
  restores_count _ count

private theorem QueueLengths.isSteady : QueueLengths.shape.IsSteady := by
  simp only [Shape.IsSteady, QueueLengths.shape, List.forall_mem_cons]
  exact ⟨Count.isSteady_decode.map _, Count.isSteady_decode.map _, Count.isSteady_decode.map _,
    Count.isSteady_decode.map _, nofun⟩

theorem QueueLengths.restores (lengths : QueueLengths) :
    QueueLengths.shape.decode.Restores QueueLengths.encode (depth + 1) lengths := by
  exact restores_of_fields isSteady (by decide)
    (.cons (Count.restores _ _) <| .cons (Count.restores _ _) <| .cons (Count.restores _ _) <|
    .cons (Count.restores _ _) .nil)
    rfl rfl

private theorem LiveStats.isSteady : LiveStats.shape.IsSteady := by
  simp only [Shape.IsSteady, LiveStats.shape, List.forall_mem_cons]
  exact ⟨isSteady_text.map _, isSteady_flag.map _, Count.isSteady_decode.map _,
    Count.isSteady_decode.map _, Count.isSteady_decode.map _, (isSteady_decode Lockups.isSteady).map _,
    (isSteady_decode QueueLengths.isSteady).map _, Count.isSteady_decode.map _,
    isSteady_text.optional.map _, nofun⟩

/-- Live statistics hold two objects more, one level below their own. -/
theorem LiveStats.restores (stats : LiveStats) :
    LiveStats.shape.decode.Restores LiveStats.encode (depth + 2) stats := by
  have hbusy : (optional Decoder.text).Restores (.ofOption .text) (depth + 1) stats.busyTime :=
    restores_optional (fun _ => nofun) restores_text
  exact restores_of_fields isSteady (by decide)
    (.cons (restores_text _) <| .cons (restores_flag _) <| .cons (Count.restores _ _) <|
    .cons (Count.restores _ _) <| .cons (Count.restores _ _) <| .cons (stats.lockups.restores depth) <|
    .cons (stats.byPriority.restores depth) <| .cons (Count.restores _ _) <| .cons hbusy .nil)
    rfl rfl

private theorem Aggregate.isSteady : Aggregate.shape.IsSteady := by
  simp only [Shape.IsSteady, Aggregate.shape, List.forall_mem_cons]
  exact ⟨Count.isSteady_decode.map _, Count.isSteady_decode.map _, Count.isSteady_decode.map _,
    isSteady_flag.map _, (isSteady_count _).map _, (isSteady_count _).map _, nofun⟩

theorem Aggregate.restores (sum : Aggregate) :
    Aggregate.shape.decode.Restores Aggregate.encode (depth + 1) sum := by
  exact restores_of_fields isSteady (by decide)
    (.cons (Count.restores _ _) <| .cons (Count.restores _ _) <| .cons (Count.restores _ _) <|
    .cons (restores_flag _) <| .cons (restores_count _ _) <| .cons (restores_count _ _) .nil)
    rfl rfl

end PollAudit
