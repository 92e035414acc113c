import PollAudit.Proofs.Batch.Sent

namespace PollAudit.Batch

/-- A fresh slot will end as its request does. -/
theorem Slot.result_ofPending (pending : Pending) :
    (Slot.ofPending pending).result = pending.reply.result := by
  unfold Slot.ofPending
  split <;> rfl

/-- The fresh slots of a batch will end as its requests do. -/
theorem map_result_ofPending (sent : List Pending) :
    (sent.map Slot.ofPending).map Slot.result = sent.map (·.reply.result) := by
  rw [List.map_map]
  exact List.map_congr_left fun pending _ => Slot.result_ofPending pending

/-- A poll does not change the result that a request will have. -/
theorem Slot.result_poll (slot : Slot) : slot.poll.1.result = slot.result := by
  rcases slot with ⟨_ | polls, result⟩ | result
  · rfl
  · rfl
  · rfl

/-- A batch whose requests all find counters does not fail. -/
theorem failure?_eq_none {gathering : Gathering} {slots : List Slot} {samples : List LiveStats}
    (h : slots.map Slot.result = samples.map .ok) : failure? gathering slots = none := by
  induction slots generalizing samples with
  | nil => rfl
  | cons slot rest ih =>
    obtain ⟨sample, samples, rfl⟩ : ∃ first others, samples = first :: others := by
      cases samples with
      | nil => cases h
      | cons first others => exact ⟨first, others, rfl⟩
    rw [List.map_cons, List.map_cons, List.cons.injEq] at h
    rcases slot with ⟨polls, result⟩ | result
    · cases gathering with
      | eager => exact ih h.2
      | ordered => rfl
    · obtain rfl : result = .ok sample := h.1
      exact ih h.2

/-- A round of polls changes none of the results to come. -/
theorem map_result_poll (slots : List Slot) :
    (slots.map (·.poll.1)).map Slot.result = slots.map Slot.result := by
  rw [List.map_map]
  exact List.map_congr_left fun slot _ => Slot.result_poll slot

/-- A round of such a batch polls every request once. -/
theorem round_of_ok (gathering : Gathering) (polled : List Slot) {slots : List Slot}
    {samples : List LiveStats} (h : (polled ++ slots).map Slot.result = samples.map .ok) :
    round gathering polled slots =
      ⟨polled ++ slots.map (·.poll.1), slots.flatMap (·.poll.2), none⟩ := by
  induction slots generalizing polled with
  | nil =>
    rw [List.map_nil, List.append_nil]
    rfl
  | cons slot rest ih =>
    have hpolled : (polled ++ slot.poll.1 :: rest).map Slot.result = samples.map .ok := by
      simpa only [List.map_append, List.map_cons, Slot.result_poll] using h
    rw [round]
    simp only [failure?_eq_none hpolled]
    rw [ih (polled ++ [slot.poll.1]) (by rwa [List.append_assoc]), List.append_assoc]
    rfl

/-- The rounds of such a batch follow one another, and all requests end as they will end. -/
theorem rounds_succ_of_ok (gathering : Gathering) (n : Nat) {slots : List Slot}
    {samples : List LiveStats} (h : slots.map Slot.result = samples.map .ok) :
    let later := rounds gathering n (slots.map (·.poll.1))
    rounds gathering (n + 1) slots =
      { later with events := slots.flatMap (·.poll.2) ++ later.events } := by
  rw [rounds, round_of_ok gathering [] h]
  rfl

private theorem rounds_of_ok (gathering : Gathering) (n : Nat) {slots : List Slot}
    {samples : List LiveStats} (h : slots.map Slot.result = samples.map .ok) :
    (rounds gathering n slots).failure = none ∧
      (rounds gathering n slots).slots.map Slot.result = samples.map .ok := by
  induction n generalizing slots with
  | zero => exact ⟨rfl, h⟩
  | succ n ih =>
    rw [rounds_succ_of_ok gathering n h]
    exact ih ((map_result_poll slots).trans h)

private theorem mapM_result {slots : List Slot} {samples : List LiveStats}
    (h : slots.map Slot.result = samples.map .ok) :
    slots.mapM Slot.result = .ok samples := by
  calc slots.mapM Slot.result = (slots.map Slot.result).mapM id := by
        rw [List.mapM_map]
        rfl
    _ = samples.mapM (fun sample => pure sample) := by
        rw [h, List.mapM_map]
        rfl
    _ = .ok samples := by
        rw [List.mapM_pure, List.map_id']
        rfl

/-- A batch whose requests all found counters gives them in order. -/
theorem settle_of_ok {gathering : Gathering} {sent : List Pending} {samples : List LiveStats}
    (h : sent.map (·.reply.result) = samples.map .ok) :
    settle gathering sent =
      ⟨.ok samples, sendEvents sent ++ (rounds gathering (span (sent.map Slot.ofPending))
        (sent.map Slot.ofPending)).events⟩ := by
  have hslots : (sent.map Slot.ofPending).map Slot.result = samples.map .ok := by
    rw [map_result_ofPending, h]
  obtain ⟨hnone, hresults⟩ :=
    rounds_of_ok gathering (span (sent.map Slot.ofPending)) hslots
  simp only [settle, standingOf, failure?_eq_none hslots, hnone, mapM_result hresults]

/-- Requests that all succeed give a list of samples. -/
theorem exists_samples {sent : List Pending}
    (h : ∀ pending ∈ sent, ∃ stats, pending.reply.result = .ok stats) :
    ∃ samples : List LiveStats, sent.map (·.reply.result) = samples.map .ok := by
  induction sent with
  | nil => exact ⟨[], rfl⟩
  | cons pending later ih =>
    obtain ⟨stats, hstats⟩ := h pending List.mem_cons_self
    obtain ⟨samples, hsamples⟩ := ih fun other hother => h other (List.mem_cons_of_mem _ hother)
    exact ⟨stats :: samples, by rw [List.map_cons, List.map_cons, hstats, hsamples]⟩

/-- While no request that was sent fails, the batch goes on. -/
theorem failure?_sent_eq_none {gathering : Gathering} {sent : List Pending}
    (h : ∀ pending ∈ sent, ∃ stats, pending.reply.result = .ok stats) :
    failure? gathering (sent.map Slot.ofPending) = none := by
  obtain ⟨samples, hsamples⟩ := exists_samples h
  have hslots : (sent.map Slot.ofPending).map Slot.result = samples.map .ok := by
    rw [map_result_ofPending, hsamples]
  exact failure?_eq_none hslots

/-- Requests whose results are samples all succeed. -/
theorem forall_ok_of_map {sent : List Pending} {samples : List LiveStats}
    (h : sent.map (·.reply.result) = samples.map .ok) :
    ∀ pending ∈ sent, ∃ stats, pending.reply.result = .ok stats := by
  intro pending hpending
  have hmem : pending.reply.result ∈ samples.map .ok := by
    rw [← h]
    exact List.mem_map_of_mem hpending
  obtain ⟨stats, _, hstats⟩ := List.mem_map.mp hmem
  exact ⟨stats, hstats.symm⟩

variable {σ : Type} {source : Source (StateM σ)} {plugin : String} {gathering : Gathering}

/-- A batch that met no failure has asked for every entry. -/
theorem length_sends {before : List Pending}
    (hbefore : ∀ pending ∈ before, ∃ stats, pending.reply.result = .ok stats)
    (entries : List Watch) (world : σ)
    (h : ∀ pending ∈ (sends source plugin gathering before entries world).1,
      ∃ stats, pending.reply.result = .ok stats) :
    (sends source plugin gathering before entries world).1.length = entries.length := by
  induction entries generalizing before world with
  | nil => rfl
  | cons watch rest ih =>
    rcases hstats : source.stats plugin watch.name world with ⟨pending, world'⟩
    have hsent : pending ∈ (sends source plugin gathering before (watch :: rest) world).1 := by
      by_cases hnone : failure? gathering ((before ++ [pending]).map Slot.ofPending) = none
      · rw [sends_cons_of_none hstats hnone]
        exact List.mem_cons_self
      · rw [sends_cons_of_some hstats hnone]
        exact List.mem_cons_self
    have hknown : ∀ other ∈ before ++ [pending], ∃ stats, other.reply.result = .ok stats :=
      List.forall_mem_append.mpr ⟨hbefore, List.forall_mem_singleton.mpr (h pending hsent)⟩
    -- So the batch cannot have ended here, however it is gathered.
    have hnone : failure? gathering ((before ++ [pending]).map Slot.ofPending) = none :=
      failure?_sent_eq_none hknown
    rw [sends_cons_of_none hstats hnone] at h ⊢
    rw [List.length_cons, List.length_cons,
      ih hknown world' fun later hlater => h later (List.mem_cons_of_mem _ hlater)]

end PollAudit.Batch
