import PollAudit.Proofs.Batch.Answers
import PollAudit.Proofs.Batch.Failure

namespace PollAudit.Batch

variable {front back sent : List Pending} {pending first : Pending} {failure : Failure}

private theorem ofPending_of_delay_eq_zero (h : pending.delay = 0) :
    Slot.ofPending pending = .finished pending.reply.result := by
  rw [Slot.ofPending, h]

private theorem ofPending_of_delay_ne_zero (h : pending.delay ≠ 0) :
    ∃ polls, Slot.ofPending pending = .waiting polls pending.reply.result := by
  obtain ⟨polls, hpolls⟩ := Nat.exists_eq_succ_of_ne_zero h
  exact ⟨polls, by rw [Slot.ofPending, hpolls]⟩

/-- A batch that is gathered from the front fails of its first request that fails. -/
theorem failsFirst_of_failure? {slots : List Slot} (h : failure? .ordered slots = some failure) :
    FailsFirst (slots.map Slot.result) failure := by
  induction slots with
  | nil => cases h
  | cons slot rest ih =>
    rcases slot with ⟨polls, result⟩ | ⟨other | stats⟩
    · cases h
    · obtain rfl : other = failure := Option.some.inj h
      exact ⟨[], _, rfl⟩
    · exact (ih h).cons stats

/-- The requests in `front` succeed, and the one behind them fails. -/
structure Heads (front : List Pending) (first : Pending) (failure : Failure) : Prop where
  front : ∀ pending ∈ front, ∃ stats, pending.reply.result = .ok stats
  failed : first.reply.result = .error failure

/-- Of requests that do not all succeed one is the first to fail. -/
theorem exists_heads {replies : List Pending}
    (h : ∃ pending ∈ replies, ∃ failure, pending.reply.result = .error failure) :
    ∃ front first back failure, replies = front ++ first :: back ∧ Heads front first failure := by
  induction replies with
  | nil =>
    obtain ⟨_, hmem, _⟩ := h
    cases hmem
  | cons pending rest ih =>
    rcases hresult : pending.reply.result with failure | stats
    · exact ⟨[], pending, rest, failure, rfl, List.forall_mem_nil _, hresult⟩
    · obtain ⟨other, hmem, other', hfailed⟩ := h
      have hlater : other ∈ rest := by
        rcases List.mem_cons.mp hmem with rfl | hlater
        · rw [hresult] at hfailed
          cases hfailed
        · exact hlater
      obtain ⟨front, first, back, failure, rfl, hheads⟩ := ih ⟨other, hlater, other', hfailed⟩
      exact ⟨pending :: front, first, back, failure, rfl,
        List.forall_mem_cons.mpr ⟨⟨stats, hresult⟩, hheads.front⟩, hheads.failed⟩

namespace Heads

private theorem tail (h : Heads (pending :: front) first failure) : Heads front first failure :=
  ⟨fun other hother => h.front other (List.mem_cons_of_mem _ hother), h.failed⟩

private theorem failsFirst (h : Heads front first failure) (back : List Pending) :
    FailsFirst ((front ++ first :: back).map (·.reply.result)) failure := by
  obtain ⟨samples, hsamples⟩ := exists_samples h.front
  exact ⟨samples, back.map (·.reply.result), by rw [List.map_append, List.map_cons, hsamples, h.failed]⟩

/-- Where no request up to the first failing one is kept waiting, its failure is found at once. -/
theorem failure?_eq_some (h : Heads front first failure)
    (hdelay : ∀ other ∈ front ++ [first], other.delay = 0) :
    failure? .ordered ((front ++ first :: back).map Slot.ofPending) = some failure := by
  induction front with
  | nil =>
    have hfirst := ofPending_of_delay_eq_zero (hdelay first List.mem_cons_self)
    rw [List.nil_append, List.map_cons, hfirst, h.failed]
    rfl
  | cons pending front ih =>
    have hpending := ofPending_of_delay_eq_zero (hdelay pending List.mem_cons_self)
    obtain ⟨stats, hstats⟩ := h.front pending List.mem_cons_self
    rw [List.cons_append, List.map_cons, hpending, hstats]
    exact ih h.tail fun other hother => hdelay other (List.mem_cons_of_mem _ hother)

/-- A request up to the first failing one that is kept waiting keeps all others from being looked
at, whatever they found. -/
theorem failure?_eq_none (h : Heads front first failure)
    (hwaiting : ∃ other ∈ front ++ [first], other.delay ≠ 0)
    (hsent : sent <+: front ++ first :: back) :
    failure? .ordered (sent.map Slot.ofPending) = none := by
  induction front generalizing sent with
  | nil =>
    obtain ⟨other, hmem, hdelay⟩ := hwaiting
    obtain rfl := List.mem_singleton.mp hmem
    obtain rfl | ⟨later, rfl, _⟩ := List.prefix_cons_iff.mp hsent
    · rfl
    · obtain ⟨polls, hfirst⟩ := ofPending_of_delay_ne_zero hdelay
      rw [List.map_cons, hfirst]
      rfl
  | cons pending front ih =>
    obtain rfl | ⟨later, rfl, hlater⟩ := List.prefix_cons_iff.mp hsent
    · rfl
    · by_cases hpending : pending.delay = 0
      · obtain ⟨stats, hstats⟩ := h.front pending List.mem_cons_self
        obtain ⟨other, hmem, hdelay⟩ := hwaiting
        have hother : other ∈ front ++ [first] := by
          rcases List.mem_cons.mp hmem with rfl | hother
          · exact absurd hpending hdelay
          · exact hother
        rw [List.map_cons, ofPending_of_delay_eq_zero hpending, hstats]
        exact ih h.tail ⟨other, hother, hdelay⟩ hlater
      · obtain ⟨polls, hslot⟩ := ofPending_of_delay_ne_zero hpending
        rw [List.map_cons, hslot]
        rfl

/-- Such a batch fails of what its first failing request failed of, however long that was kept
waiting. -/
theorem settle (h : Heads front first failure) :
    (settle .ordered (front ++ first :: back)).result = .error failure := by
  have hfirst := h.failsFirst back
  obtain ⟨samples, _, hsamples⟩ | ⟨other, herror, hfound⟩ :=
    settle_eq_cases .ordered (front ++ first :: back)
  · have hmem := hfirst.error_mem
    rw [hsamples] at hmem
    obtain ⟨_, _, hok⟩ := List.mem_map.mp hmem
    cases hok
  · have hother : FailsFirst ((front ++ first :: back).map (·.reply.result)) other := by
      obtain ⟨found, hfailure, hmap⟩ | hother := hfound
      · rw [← hmap]
        exact failsFirst_of_failure? hfailure
      · exact hother
    rw [herror, hfirst.unique hother]

variable {σ : Type} {source : Source (StateM σ)} {plugin : String}

/-- Such a batch stops sending only where nothing is kept waiting up to its first failing
request. -/
theorem sends (h : Heads front first failure) {entries : List Watch} {world : σ}
    (hanswers : (answers source plugin entries world).1 = front ++ first :: back) :
    sends source plugin .ordered [] entries world = answers source plugin
      (entries.take
        (if ∀ other ∈ front ++ [first], other.delay = 0 then front.length + 1
          else entries.length)) world := by
  split
  · rename_i hdelay
    refine sends_eq_of_stop hanswers (fun sent hsent => failure?_sent_eq_none ?_) ?_
    · intro other hother
      exact h.front other (hsent.subset hother)
    · rw [List.nil_append, h.failure?_eq_some hdelay]
      exact nofun
  · rename_i hdelay
    rw [List.take_length]
    refine sends_eq_answers fun sent hsent => ?_
    rw [hanswers] at hsent
    exact h.failure?_eq_none (by simpa using hdelay) hsent

end Heads

end PollAudit.Batch
