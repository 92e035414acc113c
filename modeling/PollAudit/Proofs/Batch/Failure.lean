import PollAudit.Proofs.Batch.Success

namespace PollAudit.Batch

variable {gathering : Gathering} {failure : Failure}

/-- A round leaves every request the result that it will have. -/
theorem map_result_round (gathering : Gathering) (polled slots : List Slot) :
    (round gathering polled slots).slots.map Slot.result = (polled ++ slots).map Slot.result := by
  induction slots generalizing polled with
  | nil => rw [round, List.append_nil]
  | cons slot rest ih =>
    have hpolled : (polled ++ slot.poll.1 :: rest).map Slot.result =
        (polled ++ slot :: rest).map Slot.result := by
      simp only [List.map_append, List.map_cons, Slot.result_poll]
    rw [round]
    simp only
    split
    · exact hpolled
    · simp only [ih, ← hpolled, List.append_assoc, List.singleton_append]

private theorem map_result_rounds (gathering : Gathering) (n : Nat) (slots : List Slot) :
    (rounds gathering n slots).slots.map Slot.result = slots.map Slot.result := by
  induction n generalizing slots with
  | zero => rfl
  | succ n ih =>
    have hround := map_result_round gathering [] slots
    rw [rounds]
    simp only
    split
    · exact hround
    · simp only [ih, hround, List.nil_append]

/-- A round that ends the batch does so at some poll of it. -/
theorem exists_failure?_of_round {polled slots : List Slot}
    (h : (round gathering polled slots).failure = some failure) :
    ∃ found, failure? gathering found = some failure ∧
      found.map Slot.result = (polled ++ slots).map Slot.result := by
  induction slots generalizing polled with
  | nil => cases h
  | cons slot rest ih =>
    have hpolled : (polled ++ slot.poll.1 :: rest).map Slot.result =
        (polled ++ slot :: rest).map Slot.result := by
      simp only [List.map_append, List.map_cons, Slot.result_poll]
    rw [round] at h
    simp only at h
    rw [← hpolled]
    split at h
    · rename_i other hfailure
      obtain rfl : other = failure := Option.some.inj h
      exact ⟨_, hfailure, rfl⟩
    · simpa only [List.append_assoc, List.singleton_append] using ih h

private theorem exists_failure?_of_rounds {n : Nat} {slots : List Slot}
    (h : (rounds gathering n slots).failure = some failure) :
    ∃ found, failure? gathering found = some failure ∧
      found.map Slot.result = slots.map Slot.result := by
  induction n generalizing slots with
  | zero => cases h
  | succ n ih =>
    rw [rounds] at h
    simp only at h
    split at h
    · exact exists_failure?_of_round h
    · simpa only [map_result_round, List.nil_append] using ih h

/-- The failure that ends a batch is what one of its requests failed of. -/
theorem error_mem_of_failure? {slots : List Slot} (h : failure? gathering slots = some failure) :
    .error failure ∈ slots.map Slot.result := by
  induction slots with
  | nil => cases h
  | cons slot rest ih =>
    rw [List.map_cons]
    rcases slot with ⟨polls, result⟩ | ⟨other | stats⟩
    · cases gathering with
      | eager => exact List.mem_cons_of_mem _ (ih h)
      | ordered => cases h
    · obtain rfl : other = failure := Option.some.inj h
      exact List.mem_cons_self
    · exact List.mem_cons_of_mem _ (ih h)

/-- The first of the results that is a failure is `failure`. -/
def FailsFirst (results : List (Except Failure LiveStats)) (failure : Failure) : Prop :=
  ∃ (samples : List LiveStats) (rest : List (Except Failure LiveStats)),
    results = samples.map .ok ++ .error failure :: rest

/-- A success in front of the others does not change which of them fails first. -/
theorem FailsFirst.cons {results : List (Except Failure LiveStats)} (stats : LiveStats)
    (h : FailsFirst results failure) : FailsFirst (.ok stats :: results) failure := by
  obtain ⟨samples, rest, rfl⟩ := h
  exact ⟨stats :: samples, rest, rfl⟩

/-- The first failure is one of the results. -/
theorem FailsFirst.error_mem {results : List (Except Failure LiveStats)}
    (h : FailsFirst results failure) : .error failure ∈ results := by
  obtain ⟨samples, rest, rfl⟩ := h
  exact List.mem_append_right _ List.mem_cons_self

/-- There is only one first failure. -/
theorem FailsFirst.unique {results : List (Except Failure LiveStats)} {other : Failure}
    (h : FailsFirst results failure) (hother : FailsFirst results other) : failure = other := by
  obtain ⟨samples, rest, rfl⟩ := h
  induction samples with
  | nil =>
    obtain ⟨_ | ⟨stats, samples⟩, rest', heq⟩ := hother
    · exact Except.error.inj (List.cons.inj heq).1
    · cases (List.cons.inj heq).1
  | cons stats samples ih =>
    obtain ⟨_ | ⟨first, samples'⟩, rest', heq⟩ := hother
    · cases (List.cons.inj heq).1
    · exact ih ⟨samples', rest', (List.cons.inj heq).2⟩

/-- Results taken in order are all there, or the first failure among them is. -/
theorem mapM_result_cases (slots : List Slot) :
    (∃ samples, slots.mapM Slot.result = .ok samples ∧ slots.map Slot.result = samples.map .ok) ∨
      ∃ failure, slots.mapM Slot.result = .error failure ∧
        FailsFirst (slots.map Slot.result) failure := by
  induction slots with
  | nil => exact .inl ⟨[], rfl, rfl⟩
  | cons slot rest ih =>
    rw [List.mapM_cons, List.map_cons]
    rcases hslot : slot.result with failure | stats
    · exact .inr ⟨failure, rfl, [], _, rfl⟩
    · obtain ⟨samples, hmapM, hmap⟩ | ⟨failure, hmapM, hfirst⟩ := ih
      · rw [hmapM, hmap]
        exact .inl ⟨stats :: samples, rfl, rfl⟩
      · rw [hmapM]
        exact .inr ⟨failure, rfl, hfirst.cons stats⟩

/-- A batch brings the counters of every request that was sent, in order, or it fails: at some poll,
or when the results are taken in order at its end. -/
theorem settle_eq_cases (gathering : Gathering) (sent : List Pending) :
    (∃ samples, (settle gathering sent).result = .ok samples ∧
      sent.map (·.reply.result) = samples.map .ok) ∨
    ∃ failure, (settle gathering sent).result = .error failure ∧
      ((∃ found, failure? gathering found = some failure ∧
          found.map Slot.result = sent.map (·.reply.result)) ∨
        FailsFirst (sent.map (·.reply.result)) failure) := by
  have hslots := map_result_ofPending sent
  rw [settle]
  simp only [standingOf]
  split
  · rename_i failure hfailure
    exact .inr ⟨failure, rfl, .inl ⟨_, hfailure, hslots⟩⟩
  · split
    · rename_i failure hfailure
      obtain ⟨found, hfound, hmap⟩ := exists_failure?_of_rounds hfailure
      exact .inr ⟨failure, rfl, .inl ⟨found, hfound, hmap.trans hslots⟩⟩
    · have hrounds := map_result_rounds gathering (span (sent.map Slot.ofPending))
        (sent.map Slot.ofPending)
      obtain ⟨samples, hok, hmap⟩ | ⟨failure, herror, hfirst⟩ := mapM_result_cases
        (rounds gathering (span (sent.map Slot.ofPending)) (sent.map Slot.ofPending)).slots
      · rw [hrounds, hslots] at hmap
        exact .inl ⟨samples, hok, hmap⟩
      · rw [hrounds, hslots] at hfirst
        exact .inr ⟨failure, herror, .inr hfirst⟩

/-- A batch brings the counters of every request that was sent, in order, or it fails of what one of
them failed of. The counters that did arrive are then lost. -/
theorem settle_cases (gathering : Gathering) (sent : List Pending) :
    (∃ samples, (settle gathering sent).result = .ok samples ∧
      sent.map (·.reply.result) = samples.map .ok) ∨
    ∃ failure, (settle gathering sent).result = .error failure ∧
      ∃ pending ∈ sent, pending.reply.result = .error failure := by
  obtain hok | ⟨failure, herror, hfound⟩ := settle_eq_cases gathering sent
  · exact .inl hok
  · have hmem : .error failure ∈ sent.map (·.reply.result) := by
      obtain ⟨found, hfailure, hmap⟩ | hfirst := hfound
      · rw [← hmap]
        exact error_mem_of_failure? hfailure
      · exact hfirst.error_mem
    exact .inr ⟨failure, herror, List.mem_map.mp hmem⟩

end PollAudit.Batch
