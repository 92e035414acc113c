import Mathlib.Data.List.Fold
import Mathlib.Data.List.MinMax
import PollAudit.Proofs.Batch.Answers
import PollAudit.Proofs.Batch.Failure

namespace PollAudit

/-- The request is not found to have failed before its `polls`-th poll behind the one that sent
it. -/
def Pending.SoundFor (pending : Pending) (polls : Nat) : Prop :=
  ∀ failure, pending.reply.result = .error failure → polls ≤ pending.delay

private theorem Pending.SoundFor.mono {pending : Pending} {polls fewer : Nat}
    (h : pending.SoundFor polls) (hle : fewer ≤ polls) : pending.SoundFor fewer :=
  fun failure hfailure => Nat.le_trans hle (h failure hfailure)

namespace Batch

namespace Slot

/-- The request is not found to have failed in fewer than `polls` further polls. -/
def SoundFor (slot : Slot) (polls : Nat) : Prop :=
  ∀ failure, slot.result = .error failure → polls ≤ slot.delay

/-- A poll takes one from the polls that a slot still needs. -/
theorem delay_poll (slot : Slot) : slot.poll.1.delay = slot.delay - 1 := by
  rcases slot with ⟨_ | polls, result⟩ | result <;> rfl

/-- A fresh slot needs as many polls as its request. -/
theorem delay_ofPending (pending : Pending) : (ofPending pending).delay = pending.delay := by
  unfold ofPending
  split
  · rename_i hdelay
    rw [hdelay]
    rfl
  · rename_i polls hdelay
    rw [hdelay]
    rfl

private theorem eq_finished {slot : Slot} (h : slot.delay = 0) : slot = finished slot.result := by
  cases slot with
  | waiting polls result => cases h
  | finished result => rfl

variable {slot : Slot} {polls : Nat}

private theorem SoundFor.mono {fewer : Nat} (h : slot.SoundFor polls) (hle : fewer ≤ polls) :
    slot.SoundFor fewer :=
  fun failure hfailure => Nat.le_trans hle (h failure hfailure)

private theorem SoundFor.poll (h : slot.SoundFor (polls + 1)) : slot.poll.1.SoundFor polls := by
  intro failure hfailure
  rw [result_poll] at hfailure
  rw [delay_poll]
  exact Nat.le_sub_one_of_lt (h failure hfailure)

private theorem soundFor_ofPending {pending : Pending} :
    (ofPending pending).SoundFor polls ↔ pending.SoundFor polls := by
  rw [SoundFor, Pending.SoundFor, result_ofPending, delay_ofPending]

end Slot

section Eager

variable {polled front back slots : List Slot} {slot : Slot} {failure : Failure}

/-- While no request is found to have failed, the batch goes on. -/
theorem failure?_eager_of_sound (h : ∀ slot ∈ slots, slot.SoundFor 1) :
    failure? .eager slots = none := by
  induction slots with
  | nil => rfl
  | cons slot rest ih =>
    have hrest := ih fun later hlater => h later (List.mem_cons_of_mem _ hlater)
    rcases slot with ⟨polls, result⟩ | ⟨failure | stats⟩
    · exact hrest
    · have hsound := h _ List.mem_cons_self failure rfl
      cases hsound
    · exact hrest

private theorem failure?_sent_of_sound {sent : List Pending}
    (h : ∀ pending ∈ sent, pending.SoundFor 1) :
    failure? .eager (sent.map Slot.ofPending) = none :=
  failure?_eager_of_sound (List.forall_mem_map.mpr fun pending hmem =>
    Slot.soundFor_ofPending.mpr (h pending hmem))

/-- The first request that is found to have failed ends the batch. -/
theorem failure?_eager_of_failed (hfront : ∀ other ∈ front, other.SoundFor 1)
    (hdelay : slot.delay = 0) (hfailed : slot.result = .error failure) :
    failure? .eager (front ++ slot :: back) = some failure := by
  induction front with
  | nil =>
    rw [Slot.eq_finished hdelay, hfailed]
    rfl
  | cons other rest ih =>
    have hrest := ih fun later hlater => hfront later (List.mem_cons_of_mem _ hlater)
    rcases other with ⟨polls, result⟩ | ⟨other | stats⟩
    · exact hrest
    · have hsound := hfront _ List.mem_cons_self other rfl
      cases hsound
    · exact hrest

/-- A round in which no request is found to have failed polls them all. -/
theorem round_eager_of_sound (hpolled : ∀ slot ∈ polled, slot.SoundFor 1)
    (h : ∀ slot ∈ slots, slot.SoundFor 2) :
    (round .eager polled slots).failure = none ∧
      (round .eager polled slots).slots = polled ++ slots.map fun slot => slot.poll.1 := by
  induction slots generalizing polled with
  | nil =>
    rw [List.map_nil, List.append_nil]
    exact ⟨rfl, rfl⟩
  | cons slot rest ih =>
    have hslot : slot.poll.1.SoundFor 1 := (h slot List.mem_cons_self).poll
    have hrest : ∀ later ∈ rest, later.SoundFor 2 := fun later hlater =>
      h later (List.mem_cons_of_mem _ hlater)
    have hnone : failure? .eager (polled ++ slot.poll.1 :: rest) = none := by
      refine failure?_eager_of_sound fun other hother => ?_
      obtain hbefore | rfl | hlater := by simpa using hother
      · exact hpolled other hbefore
      · exact hslot
      · exact (hrest other hlater).mono (by decide)
    have hnext : ∀ other ∈ polled ++ [slot.poll.1], other.SoundFor 1 := by
      intro other hother
      obtain hbefore | rfl := by simpa using hother
      · exact hpolled other hbefore
      · exact hslot
    obtain ⟨hfailure, hslots⟩ := ih hnext hrest
    rw [round]
    simp only [hnone]
    refine ⟨hfailure, ?_⟩
    rw [hslots, List.map_cons, List.append_assoc, List.singleton_append]

/-- The first request that a round finds to have failed ends the batch in it. -/
theorem round_eager_of_failed (hpolled : ∀ slot ∈ polled, slot.SoundFor 1)
    (hfront : ∀ other ∈ front, other.SoundFor 2) (hback : ∀ other ∈ back, other.SoundFor 1)
    (hdelay : slot.delay = 1) (hfailed : slot.result = .error failure) :
    (round .eager polled (front ++ slot :: back)).failure = some failure := by
  induction front generalizing polled with
  | nil =>
    have hfound : failure? .eager (polled ++ slot.poll.1 :: back) = some failure := by
      refine failure?_eager_of_failed hpolled ?_ ?_
      · rw [Slot.delay_poll, hdelay]
      · rw [Slot.result_poll, hfailed]
    rw [List.nil_append, round]
    simp only [hfound]
  | cons first rest ih =>
    have hfirst : first.poll.1.SoundFor 1 := (hfront first List.mem_cons_self).poll
    have hrest : ∀ later ∈ rest, later.SoundFor 2 := fun later hlater =>
      hfront later (List.mem_cons_of_mem _ hlater)
    have hslot : slot.SoundFor 1 := fun _ _ => Nat.le_of_eq hdelay.symm
    have hnone : failure? .eager (polled ++ first.poll.1 :: (rest ++ slot :: back)) = none := by
      refine failure?_eager_of_sound fun other hother => ?_
      obtain hbefore | rfl | hlater | rfl | hbehind := by simpa using hother
      · exact hpolled other hbefore
      · exact hfirst
      · exact (hrest other hlater).mono (by decide)
      · exact hslot
      · exact hback other hbehind
    have hnext : ∀ other ∈ polled ++ [first.poll.1], other.SoundFor 1 := by
      intro other hother
      obtain hbefore | rfl := by simpa using hother
      · exact hpolled other hbefore
      · exact hfirst
    rw [List.cons_append, round]
    simp only [hnone]
    exact ih hnext hrest

/-- Round after round, the batch ends with the request that is found first to have failed: the one
of least delay, and of several such the one that stands first. -/
theorem rounds_eager_of_failed {n : Nat} (hn : slot.delay ≤ n) (hpositive : 0 < slot.delay)
    (hfailed : slot.result = .error failure)
    (hfront : ∀ other ∈ front, other.SoundFor (slot.delay + 1))
    (hback : ∀ other ∈ back, other.SoundFor slot.delay) :
    (rounds .eager n (front ++ slot :: back)).failure = some failure := by
  -- One round brings every request one poll closer to its result.
  induction n generalizing slot front back with
  | zero => omega
  | succ n ih =>
    rw [rounds]
    simp only
    by_cases hlast : slot.delay = 1
    · rw [hlast] at hfront hback
      have hround := round_eager_of_failed (List.forall_mem_nil _) hfront hback hlast hfailed
      rw [hround]
      exact hround
    · have hsound : ∀ other ∈ front ++ slot :: back, other.SoundFor 2 := by
        intro other hother
        obtain hbefore | rfl | hbehind := by simpa using hother
        · exact (hfront other hbefore).mono (by omega)
        · exact fun _ _ => by omega
        · exact (hback other hbehind).mono (by omega)
      obtain ⟨hnone, hslots⟩ := round_eager_of_sound (List.forall_mem_nil _) hsound
      rw [hnone, hslots, List.nil_append, List.map_append, List.map_cons]
      have hdelay := slot.delay_poll
      refine ih (by omega) (by omega) (by rw [Slot.result_poll, hfailed]) ?_ ?_
      · intro other hother
        obtain ⟨before, hbefore, rfl⟩ := List.mem_map.mp hother
        exact ((hfront before hbefore).mono (by omega)).poll
      · intro other hother
        obtain ⟨behind, hbehind, rfl⟩ := List.mem_map.mp hother
        exact ((hback behind hbehind).mono (by omega)).poll

end Eager

/-- The request between `front` and `back` is found first to have failed: no request before it is
found as soon, and none behind it sooner. -/
structure Leads (front : List Pending) (leader : Pending) (back : List Pending)
    (failure : Failure) : Prop where
  failed : leader.reply.result = .error failure
  front : ∀ other ∈ front, other.SoundFor (leader.delay + 1)
  back : ∀ other ∈ back, other.SoundFor leader.delay

/-- Of requests that do not all succeed one is found first to have failed. -/
theorem exists_leads {replies : List Pending}
    (h : ∃ pending ∈ replies, ∃ failure, pending.reply.result = .error failure) :
    ∃ front leader back failure, replies = front ++ leader :: back ∧
      Leads front leader back failure := by
  induction replies with
  | nil =>
    obtain ⟨_, hmem, _⟩ := h
    cases hmem
  | cons first rest ih =>
    by_cases hrest : ∃ pending ∈ rest, ∃ failure, pending.reply.result = .error failure
    · obtain ⟨front, leader, back, failure, rfl, hleads⟩ := ih hrest
      by_cases hfirst : first.SoundFor (leader.delay + 1)
      · exact ⟨first :: front, leader, back, failure, rfl, hleads.failed,
          List.forall_mem_cons.mpr ⟨hfirst, hleads.front⟩, hleads.back⟩
      · -- Being first, it need not be found sooner than the leader of the others.
        obtain ⟨other, hfailed, hdelay⟩ : ∃ other, first.reply.result = .error other ∧
            first.delay ≤ leader.delay := by
          simpa [Pending.SoundFor, Nat.lt_succ_iff] using hfirst
        refine ⟨[], first, front ++ leader :: back, other, rfl, hfailed, List.forall_mem_nil _, ?_⟩
        intro later hlater
        obtain hbefore | rfl | hbehind := by simpa using hlater
        · exact (hleads.front later hbefore).mono (by omega)
        · exact fun _ _ => hdelay
        · exact (hleads.back later hbehind).mono hdelay
    · obtain ⟨pending, hmem, hpending⟩ := h
      rcases List.mem_cons.mp hmem with rfl | hlater
      · obtain ⟨failure, hfailed⟩ := hpending
        exact ⟨[], pending, rest, failure, rfl, hfailed, List.forall_mem_nil _,
          fun later hlater other hother => absurd ⟨later, hlater, other, hother⟩ hrest⟩
      · exact absurd ⟨pending, hlater, hpending⟩ hrest

/-- No slot needs more polls than the slowest one. -/
theorem le_span {slots : List Slot} {slot : Slot} (h : slot ∈ slots) : slot.delay ≤ span slots := by
  have hspan : span slots = (slots.map Slot.delay).foldr max 0 := by
    rw [span, ← List.foldl_eq_foldr, List.foldl_map]
  rw [hspan]
  exact List.le_max_of_le' 0 (List.mem_map_of_mem h) (Nat.le_refl _)

namespace Leads

variable {front back : List Pending} {leader : Pending} {failure : Failure}

/-- No request is found to have failed before the leader. -/
theorem soundFor (h : Leads front leader back failure) :
    ∀ pending ∈ front ++ leader :: back, pending.SoundFor leader.delay := by
  intro pending hmem
  obtain hbefore | rfl | hbehind := by simpa using hmem
  · exact (h.front pending hbefore).mono (Nat.le_succ _)
  · exact fun _ _ => Nat.le_refl _
  · exact h.back pending hbehind

/-- What stands behind the leader does not matter to those before it. -/
theorem of_append (h : Leads front leader back failure) : Leads front leader [] failure :=
  ⟨h.failed, h.front, List.forall_mem_nil _⟩

/-- A leader that fails as soon as it is sent is found once it is sent. -/
theorem failure?_eq_some (h : Leads front leader back failure) (hdelay : leader.delay = 0) :
    failure? .eager ((front ++ leader :: back).map Slot.ofPending) = some failure := by
  rw [List.map_append, List.map_cons]
  refine failure?_eager_of_failed (List.forall_mem_map.mpr fun other hother => ?_) ?_ ?_
  · exact Slot.soundFor_ofPending.mpr ((h.front other hother).mono (Nat.le_add_left 1 _))
  · rw [Slot.delay_ofPending, hdelay]
  · rw [Slot.result_ofPending, h.failed]

/-- A leader that is kept waiting is found in a later round. -/
theorem rounds_failure (h : Leads front leader back failure) (hdelay : 0 < leader.delay) :
    let slots := (front ++ leader :: back).map Slot.ofPending
    (rounds .eager (span slots) slots).failure = some failure := by
  intro slots
  have hslot := Slot.delay_ofPending leader
  have hspan : (Slot.ofPending leader).delay ≤ span slots :=
    le_span (List.mem_map_of_mem (List.mem_append_right front List.mem_cons_self))
  have hslots : slots =
      front.map Slot.ofPending ++ Slot.ofPending leader :: back.map Slot.ofPending := by
    rw [← List.map_cons, ← List.map_append]
  rw [hslots] at hspan ⊢
  refine rounds_eager_of_failed hspan (by rwa [hslot]) (by rw [Slot.result_ofPending, h.failed])
    (List.forall_mem_map.mpr fun other hother => ?_)
    (List.forall_mem_map.mpr fun other hother => ?_)
  · rw [hslot]
    exact Slot.soundFor_ofPending.mpr (h.front other hother)
  · rw [hslot]
    exact Slot.soundFor_ofPending.mpr (h.back other hother)

/-- A batch that is watched as a whole fails of what the leader failed of. -/
theorem settle (h : Leads front leader back failure) :
    (settle .eager (front ++ leader :: back)).result = .error failure := by
  rw [Batch.settle]
  simp only [standingOf]
  by_cases hdelay : leader.delay = 0
  · simp only [h.failure?_eq_some hdelay]
  · have hpositive := Nat.pos_of_ne_zero hdelay
    have hsound : ∀ pending ∈ front ++ leader :: back, pending.SoundFor 1 :=
      fun pending hmem => (h.soundFor pending hmem).mono hpositive
    simp only [failure?_sent_of_sound hsound, h.rounds_failure hpositive]

variable {σ : Type} {source : Source (StateM σ)} {plugin : String}

/-- Such a batch stops sending when the leader fails as soon as it is sent. While the leader is kept
waiting, all requests are sent. -/
theorem sends (h : Leads front leader back failure) {entries : List Watch} {world : σ}
    (hanswers : (answers source plugin entries world).1 = front ++ leader :: back) :
    sends source plugin .eager [] entries world = answers source plugin
      (entries.take (if leader.delay = 0 then front.length + 1 else entries.length)) world := by
  split
  · rename_i hdelay
    refine sends_eq_of_stop hanswers (fun sent hsent => failure?_sent_of_sound ?_) ?_
    · intro other hother
      exact (h.front other (hsent.subset hother)).mono (Nat.le_add_left 1 _)
    · rw [List.nil_append, h.of_append.failure?_eq_some hdelay]
      exact nofun
  · rename_i hdelay
    rw [List.take_length]
    refine sends_eq_answers fun sent hsent => failure?_sent_of_sound ?_
    rw [hanswers] at hsent
    intro other hother
    exact (h.soundFor other (hsent.subset hother)).mono (Nat.pos_of_ne_zero hdelay)

end Leads

end Batch

end PollAudit
