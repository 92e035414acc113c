import PollAudit.Proofs.Report.Stream
import PollAudit.Report.Writer

namespace PollAudit.Writer

/-- The writer takes all bytes of a text before it breaks. -/
def HasRoom (w : Writer) (text : String) : Prop :=
  ∀ room, w.room = some room → text.utf8ByteSize ≤ room

/-- The next `n` flushes work. -/
def CanFlush (w : Writer) (n : Nat) : Prop := ∀ flushes, w.flushes = some flushes → n ≤ flushes

/-- The writer takes every byte of some texts, and the flush behind each of them works. -/
structure Accepts (w : Writer) (texts : List String) : Prop where
  room : w.HasRoom (String.join texts)
  flushes : w.CanFlush texts.length

/-- The writer behind texts that it accepted. -/
def past (w : Writer) (texts : List String) : Writer where
  written := w.written ++ String.join texts
  room := w.room.map (· - (String.join texts).utf8ByteSize)
  flushes := w.flushes.map (· - texts.length)

/-- What a writer has of a text that it did not accept, behind others that it did: a part of it, and
the whole of it exactly if it was the flush that failed. -/
structure Leaves (w : Writer) (taken : List String) (text part : String) : Prop where
  front : part.toList <+: text.toList
  whole : part = text ↔ w.HasRoom (String.join (taken ++ [text]))
  flush : w.HasRoom (String.join (taken ++ [text])) → w.flushes = some taken.length
  cut : ¬ w.HasRoom (String.join (taken ++ [text])) →
    w.room = some (String.join taken ++ part).utf8ByteSize

section Put

variable {w : Writer} {text : String} (hascii : Text.IsAscii text)

include hascii

private theorem put_of_hasRoom (h : w.HasRoom text) :
    w.put text = (true, { w with
      written := w.written ++ text, room := w.room.map (· - text.utf8ByteSize) }) := by
  have hfits : fitting w.room text = text := by
    cases hroom : w.room with
    | none => rfl
    | some room =>
      have hle := h room hroom
      rw [hascii.utf8ByteSize_eq, ← String.length_toList] at hle
      rw [fitting, List.take_of_length_le hle, String.ofList_toList]
  rw [put, hfits, beq_self_eq_true, hascii.utf8ByteSize_eq]

/-- A text that does not fit is cut where the writer breaks. -/
theorem put_of_not_hasRoom (h : ¬ w.HasRoom text) :
    ∃ part, (w.put text).1 = false ∧ (w.put text).2.written = w.written ++ part ∧
      part.toList <+: text.toList ∧ part ≠ text ∧ w.room = some part.utf8ByteSize := by
  simp only [HasRoom, not_forall, Nat.not_le] at h
  obtain ⟨room, hroom, hlt⟩ := h
  rw [hascii.utf8ByteSize_eq, ← String.length_toList] at hlt
  have hne : String.ofList (text.toList.take room) ≠ text := by
    intro heq
    have hlength := congrArg String.length heq
    rw [String.length_ofList, List.length_take, ← String.length_toList] at hlength
    omega
  have htaken : Text.IsAscii (String.ofList (text.toList.take room)) := by
    intro c hc
    rw [String.toList_ofList] at hc
    exact hascii c (List.mem_of_mem_take hc)
  refine ⟨String.ofList (text.toList.take room), ?_, ?_, ?_, hne, ?_⟩
  · rw [put, hroom, fitting]
    exact beq_eq_false_iff_ne.mpr hne
  · rw [put, hroom, fitting]
  · rw [String.toList_ofList]
    exact List.take_prefix _ _
  · rw [hroom, htaken.utf8ByteSize_eq, String.length_ofList, List.length_take]
    congr 1
    omega

end Put

section Report

variable {w : Writer} {colour : Bool} {report : CycleReport}

private theorem isAscii_block (report : CycleReport) (colour : Bool) :
    Text.IsAscii (report.block colour) := by
  rw [← CycleReport.stream_singleton]
  exact CycleReport.isAscii_stream colour [report]

private theorem accepts_singleton_iff {text : String} :
    w.Accepts [text] ↔ w.HasRoom text ∧ w.CanFlush 1 := by
  have hjoin : String.join [text] = text := by simp
  exact ⟨fun h => ⟨hjoin ▸ h.room, h.flushes⟩, fun h => ⟨hjoin.symm ▸ h.1, h.2⟩⟩

/-- A report whose block is accepted is written. -/
theorem report_of_accepts (h : w.Accepts [report.block colour]) :
    w.report colour report = (.ok (), w.past [report.block colour]) := by
  obtain ⟨hroom, hflush⟩ := accepts_singleton_iff.mp h
  rw [Writer.report, put_of_hasRoom (isAscii_block report colour) hroom, past]
  rcases hflushes : w.flushes with _ | _ | flushes
  · simp [flush]
  · exact absurd (hflush 0 hflushes) (by decide)
  · simp [flush]

/-- A report whose block is not accepted is refused. What was written of it is a part of its block,
the whole block exactly if it was the flush that failed. -/
theorem report_of_not_accepts (h : ¬ w.Accepts [report.block colour]) :
    ∃ part, (w.report colour report).1 = .error .output ∧
      (w.report colour report).2.written = w.written ++ part ∧
      part.toList <+: (report.block colour).toList ∧
      (part = report.block colour ↔ w.HasRoom (report.block colour)) ∧
      (¬ w.HasRoom (report.block colour) → w.room = some part.utf8ByteSize) := by
  have hascii := isAscii_block report colour
  by_cases hroom : w.HasRoom (report.block colour)
  · have hflush : w.flushes = some 0 := by
      simp only [accepts_singleton_iff, hroom, true_and, CanFlush, not_forall] at h
      obtain ⟨flushes, hflushes, hlt⟩ := h
      rw [hflushes]
      congr 1
      omega
    refine ⟨report.block colour, ?_, ?_, List.prefix_rfl, iff_of_true rfl hroom, absurd hroom⟩
    · simp [Writer.report, put_of_hasRoom hascii hroom, flush, hflush]
    · simp [Writer.report, put_of_hasRoom hascii hroom, flush, hflush]
  · obtain ⟨part, hfailed, hwritten, hprefix, hne, hleft⟩ := put_of_not_hasRoom hascii hroom
    have hput : w.put (report.block colour) = (false, (w.put (report.block colour)).2) :=
      Prod.ext hfailed rfl
    refine ⟨part, ?_, ?_, hprefix, iff_of_false hne hroom, fun _ => hleft⟩
    · rw [Writer.report, hput]
    · rw [Writer.report, hput]
      exact hwritten

end Report

section Past

variable {w : Writer} {first later : List String}

@[simp] theorem past_nil : w.past [] = w := by
  cases w
  simp [past]

private theorem past_append : w.past (first ++ later) = (w.past first).past later := by
  simp only [past, String.join_append, String.append_assoc, String.utf8ByteSize_append,
    Option.map_map, List.length_append, Function.comp_def, Nat.sub_sub]

/-- A writer behind some texts is behind the first one and then behind the others. -/
theorem past_cons {text : String} : w.past (text :: later) = (w.past [text]).past later :=
  @past_append w [text] later

private theorem room_past_eq_some_iff {left : Nat} (h : w.HasRoom (String.join first)) :
    (w.past first).room = some left ↔
      w.room = some ((String.join first).utf8ByteSize + left) := by
  cases hroom : w.room with
  | none => simp [past, hroom]
  | some room =>
    have hle := h room hroom
    simp only [past, hroom, Option.map_some, Option.some.injEq]
    omega

private theorem hasRoom_past_iff {text : String} (h : w.HasRoom (String.join first)) :
    (w.past first).HasRoom text ↔ w.HasRoom (String.join first ++ text) := by
  simp only [HasRoom, room_past_eq_some_iff h, String.utf8ByteSize_append]
  constructor
  · intro hpast room hroom
    have hle := h room hroom
    have hleft := hpast (room - (String.join first).utf8ByteSize) (by
      rw [hroom, Nat.add_sub_cancel' hle])
    omega
  · intro hwhole left hleft
    have hle := hwhole _ hleft
    omega

private theorem canFlush_past_iff {n : Nat} (h : w.CanFlush first.length) :
    (w.past first).CanFlush n ↔ w.CanFlush (first.length + n) := by
  cases hflushes : w.flushes with
  | none => simp [CanFlush, past, hflushes]
  | some flushes =>
    have hle := h flushes hflushes
    simp only [CanFlush, past, hflushes, Option.map_some, Option.some.injEq, forall_eq']
    omega

theorem accepts_nil : w.Accepts [] :=
  ⟨fun _ _ => Nat.zero_le _, fun _ _ => Nat.zero_le _⟩

/-- A writer accepts what stands in front of the texts that it accepts. -/
theorem Accepts.of_append (h : w.Accepts (first ++ later)) : w.Accepts first where
  room := fun room hroom => by
    have hle := h.room room hroom
    rw [String.join_append, String.utf8ByteSize_append] at hle
    omega
  flushes := fun flushes hflushes => by
    have hle := h.flushes flushes hflushes
    rw [List.length_append] at hle
    omega

/-- A writer that accepted some texts has just the room and the flushes that they left. -/
theorem Accepts.past_iff (h : w.Accepts first) :
    (w.past first).Accepts later ↔ w.Accepts (first ++ later) := by
  refine ⟨fun hlater => ⟨?_, ?_⟩, fun hwhole => ⟨?_, ?_⟩⟩
  · rw [String.join_append, ← hasRoom_past_iff h.room]
    exact hlater.room
  · rw [List.length_append, ← canFlush_past_iff h.flushes]
    exact hlater.flushes
  · rw [hasRoom_past_iff h.room, ← String.join_append]
    exact hwhole.room
  · rw [canFlush_past_iff h.flushes, ← List.length_append]
    exact hwhole.flushes

private theorem accepts_append_iff :
    w.Accepts (first ++ later) ↔ w.Accepts first ∧ (w.past first).Accepts later :=
  ⟨fun h => ⟨h.of_append, h.of_append.past_iff.mpr h⟩, fun h => h.1.past_iff.mp h.2⟩

/-- Texts are accepted one after the other. -/
theorem accepts_cons_iff {text : String} :
    w.Accepts (text :: later) ↔ w.Accepts [text] ∧ (w.past [text]).Accepts later :=
  @accepts_append_iff w [text] later

/-- A writer that accepted the texts before it does not accept one if it breaks within it or the
flush behind it fails. -/
theorem Accepts.not_append_singleton_iff {text : String} (h : w.Accepts first) :
    ¬ w.Accepts (first ++ [text]) ↔
      ¬ w.HasRoom (String.join (first ++ [text])) ∨ w.flushes = some first.length := by
  have hflush : w.CanFlush (first ++ [text]).length ↔ w.flushes ≠ some first.length := by
    rw [List.length_append, List.length_singleton]
    cases hflushes : w.flushes with
    | none => simp [CanFlush, hflushes]
    | some flushes =>
      have hle := h.flushes flushes hflushes
      simp only [CanFlush, hflushes, Option.some.injEq, forall_eq', ne_eq]
      omega
  have haccepts : w.Accepts (first ++ [text]) ↔
      w.HasRoom (String.join (first ++ [text])) ∧ w.CanFlush (first ++ [text]).length :=
    ⟨fun h => ⟨h.room, h.flushes⟩, fun h => ⟨h.1, h.2⟩⟩
  rw [haccepts, hflush, not_and_or, not_not]

/-- A report whose block is such a text is refused, with a part of its block behind the texts. -/
theorem Accepts.exists_leaves {colour : Bool} {report : CycleReport} (h : w.Accepts first)
    (hnot : ¬ w.Accepts (first ++ [report.block colour])) :
    ∃ part, ((w.past first).report colour report).1 = .error .output ∧
      ((w.past first).report colour report).2.written = w.written ++ String.join first ++ part ∧
      w.Leaves first (report.block colour) part := by
  have hblock : (w.past first).HasRoom (report.block colour) ↔
      w.HasRoom (String.join (first ++ [report.block colour])) := by
    rw [hasRoom_past_iff h.room, String.join_append, String.join_cons, String.join_nil,
      String.append_empty]
  have hreason := h.not_append_singleton_iff.mp hnot
  rw [← h.past_iff] at hnot
  obtain ⟨part, hrefused, hwritten, hfront, hwhole, hcut⟩ := report_of_not_accepts hnot
  rw [hblock] at hwhole hcut
  refine ⟨part, hrefused, hwritten, hfront, hwhole, hreason.resolve_left ∘ not_not_intro, ?_⟩
  intro hbroken
  rw [String.utf8ByteSize_append, ← room_past_eq_some_iff h.room]
  exact hcut hbroken

end Past

end PollAudit.Writer
