import Mathlib.Data.Prod.Lex
import PollAudit.Proofs.Batch.Ordered
import PollAudit.Proofs.Batch.Race
import PollAudit.Proofs.Cycle.Exchange
import PollAudit.Proofs.Script

namespace PollAudit.Batch

/-- The order in which the requests of a batch are found when it is watched as a whole: by the polls
they keep waiting for, and by position among those that wait for as many. -/
def byDelay (position : Nat) (pending : Pending) : Nat ×ₗ Nat :=
  toLex (pending.delay, position)

/-- The order in which they are found when it is gathered from the front. -/
def byPosition (position : Nat) (_ : Pending) : Nat :=
  position

/-- Of the requests that fail, the one at position `p` is least. -/
structure FailsLeast {κ : Type} [LE κ] (key : Nat → Pending → κ) (replies : List Pending) (p : Nat)
    (pending : Pending) (failure : Failure) : Prop where
  found : replies[p]? = some pending
  failed : pending.reply.result = .error failure
  least : ∀ q other failure, replies[q]? = some other → other.reply.result = .error failure →
    key p pending ≤ key q other

section Least

variable {front back : List Pending} {first : Pending} {failure : Failure}

private theorem getElem?_append_cases {q : Nat} {other : Pending}
    (h : (front ++ first :: back)[q]? = some other) :
    q < front.length ∧ other ∈ front ∨ q = front.length ∧ other = first ∨
      front.length < q ∧ other ∈ back := by
  rcases Nat.lt_trichotomy q front.length with hlt | rfl | hgt
  · rw [List.getElem?_append_left hlt] at h
    exact .inl ⟨hlt, List.mem_of_getElem? h⟩
  · rw [List.getElem?_append_right (Nat.le_refl _), Nat.sub_self, List.getElem?_cons_zero] at h
    exact .inr (.inl ⟨rfl, (Option.some.inj h).symm⟩)
  · obtain ⟨k, rfl⟩ := Nat.exists_eq_add_of_lt hgt
    rw [List.getElem?_append_right (by omega), Nat.add_assoc, Nat.add_sub_cancel_left,
      List.getElem?_cons_succ] at h
    exact .inr (.inr ⟨hgt, List.mem_of_getElem? h⟩)

/-- The failure that leads the race is the one with the least delay, and the first of those. -/
theorem Leads.failsLeast (h : Leads front first back failure) :
    FailsLeast byDelay (front ++ first :: back) front.length first failure := by
  refine ⟨by simp, h.failed, fun q other otherFailure hfound hfailed => ?_⟩
  rw [byDelay, byDelay, Prod.Lex.toLex_le_toLex]
  obtain ⟨_, hmem⟩ | ⟨rfl, rfl⟩ | ⟨hlt, hmem⟩ := getElem?_append_cases hfound
  · exact .inl (h.front other hmem otherFailure hfailed)
  · exact .inr ⟨rfl, Nat.le_refl _⟩
  · have hdelay := h.back other hmem otherFailure hfailed
    simp only
    omega

private theorem Heads.failsLeast (h : Heads front first failure) :
    FailsLeast byPosition (front ++ first :: back) front.length first failure := by
  refine ⟨by simp, h.failed, fun q other otherFailure hfound hfailed => ?_⟩
  obtain ⟨_, hmem⟩ | ⟨rfl, rfl⟩ | ⟨hlt, _⟩ := getElem?_append_cases hfound
  · obtain ⟨stats, hstats⟩ := h.front other hmem
    rw [hstats] at hfailed
    cases hfailed
  · exact Nat.le_refl _
  · exact Nat.le_of_lt hlt

end Least

variable {σ : Type} (source : Source (StateM σ)) (plugin : String) (watched : Watched) (world : σ)

/-- The requests that a batch makes, with their answers. -/
def requests : List Exchange :=
  (run source.logged plugin watched (world, [])).2.2

/-- A batch makes the first `k` of its requests and no other one, so that the world is left as these
leave it. -/
structure Issues (k : Nat) : Prop where
  requests : requests source plugin watched world =
    exchanges plugin watched.entries ((answers source plugin watched.entries world).1.take k)
  number : (Batch.requests source plugin watched world).length = k
  left : (run source plugin watched world).2 =
    (answers source plugin (watched.entries.take k) world).2

section Outcome

variable {source plugin watched world}

private theorem issues_of_sends {k : Nat} (hk : k ≤ watched.size)
    (h : sends source plugin (.ofSize watched.size) [] watched.entries world =
      answers source plugin (watched.entries.take k) world) :
    Issues source plugin watched world k := by
  have hrequests : requests source plugin watched world =
      exchanges plugin watched.entries ((answers source plugin watched.entries world).1.take k) := by
    rw [requests, run_logged, h, answers_take, List.nil_append]
  refine ⟨hrequests, ?_, ?_⟩
  · rw [hrequests, exchanges, List.length_zipWith, List.length_take, length_answers]
    rw [Watched.size] at hk
    omega
  · rw [run_eq_settle, h]

/-- A batch whose requests all succeed makes them all and has their counters in order. -/
theorem run_of_ok (h : ∀ pending ∈ (answers source plugin watched.entries world).1,
      ∃ stats, pending.reply.result = .ok stats) :
    ∃ samples, (run source plugin watched world).1.result = .ok samples ∧
      (answers source plugin watched.entries world).1.map (·.reply.result) = samples.map .ok ∧
      Issues source plugin watched world watched.size := by
  obtain ⟨samples, hsamples⟩ := exists_samples h
  have hsends : sends source plugin (.ofSize watched.size) [] watched.entries world =
      answers source plugin watched.entries world :=
    sends_eq_answers fun sent hsent =>
      failure?_sent_eq_none fun pending hpending => h pending (hsent.subset hpending)
  refine ⟨samples, ?_, hsamples, issues_of_sends (Nat.le_refl _) ?_⟩
  · rw [run_eq_settle, hsends, settle_of_ok hsamples]
  · rw [hsends, Watched.size, List.take_length]

/-- A batch that stops behind one of its requests, or else makes them all, is settled by what it has
sent. -/
theorem run_of_stop {front back : List Pending} {pending : Pending}
    (hanswers : (answers source plugin watched.entries world).1 = front ++ pending :: back)
    (stops : Prop) [Decidable stops]
    (hsends : sends source plugin (.ofSize watched.size) [] watched.entries world =
      answers source plugin
        (watched.entries.take (if stops then front.length + 1 else watched.entries.length)) world) :
    (run source plugin watched world).1 =
        settle (.ofSize watched.size) (front ++ pending :: if stops then [] else back) ∧
      Issues source plugin watched world (if stops then front.length + 1 else watched.size) := by
  have hlength : (answers source plugin watched.entries world).1.length = watched.entries.length :=
    length_answers watched.entries world
  rw [hanswers, List.length_append, List.length_cons] at hlength
  refine ⟨?_, issues_of_sends ?_ hsends⟩
  · rw [run_eq_settle, hsends, answers_take_of_stop hanswers]
  · rw [Watched.size]
    split <;> omega

/-- A batch in which a request fails ends, while it is small, with the failure that is found first,
and otherwise with the one that stands first. -/
theorem run_of_error (h : ∃ pending ∈ (answers source plugin watched.entries world).1,
      ∃ failure, pending.reply.result = .error failure) :
    let replies := (answers source plugin watched.entries world).1
    ∃ failure p pending, (run source plugin watched world).1.result = .error failure ∧
      (watched.size ≤ eagerSize → FailsLeast byDelay replies p pending failure ∧
        Issues source plugin watched world (if pending.delay = 0 then p + 1 else watched.size)) ∧
      (eagerSize < watched.size → FailsLeast byPosition replies p pending failure ∧
        Issues source plugin watched world
          (if ∀ other ∈ replies.take (p + 1), other.delay = 0 then p + 1 else watched.size)) := by
  intro replies
  rcases Nat.lt_or_ge eagerSize watched.size with hlarge | hsmall
  · have hgathering : Gathering.ofSize watched.size = .ordered := if_neg (Nat.not_le_of_lt hlarge)
    obtain ⟨front, first, back, failure, hanswers, hheads⟩ := exists_heads h
    have hreplies : replies = front ++ first :: back := hanswers
    have htake : replies.take (front.length + 1) = front ++ [first] := by
      rw [hreplies]
      exact List.take_length_add_append 1
    obtain ⟨hrun, hissues⟩ := run_of_stop hanswers _ (hgathering ▸ hheads.sends hanswers)
    rw [← htake] at hissues
    refine ⟨failure, front.length, first, ?_, fun hsmall => absurd hlarge (Nat.not_lt_of_le hsmall),
      fun _ => ⟨hreplies ▸ hheads.failsLeast, hissues⟩⟩
    rw [hrun, hgathering]
    exact hheads.settle
  · have hgathering : Gathering.ofSize watched.size = .eager := if_pos hsmall
    obtain ⟨front, leader, back, failure, hanswers, hleads⟩ := exists_leads h
    have hreplies : replies = front ++ leader :: back := hanswers
    obtain ⟨hrun, hissues⟩ := run_of_stop hanswers _ (hgathering ▸ hleads.sends hanswers)
    refine ⟨failure, front.length, leader, ?_, fun _ => ⟨hreplies ▸ hleads.failsLeast, hissues⟩,
      fun hlarge => absurd hlarge (Nat.not_lt_of_le hsmall)⟩
    rw [hrun, hgathering]
    split
    · exact hleads.of_append.settle
    · exact hleads.settle

/-- Either all requests of a batch succeed or one of them fails. -/
theorem forall_ok_or_exists_error (replies : List Pending) :
    (∀ pending ∈ replies, ∃ stats, pending.reply.result = .ok stats) ∨
      ∃ pending ∈ replies, ∃ failure, pending.reply.result = .error failure := by
  rw [or_iff_not_imp_left]
  intro h
  push Not at h
  obtain ⟨pending, hmem, hnone⟩ := h
  rcases hresult : pending.reply.result with failure | stats
  · exact ⟨pending, hmem, failure, hresult⟩
  · exact absurd hresult (hnone stats)

/-- A batch that succeeds has the counters of all its requests. -/
theorem run_eq_ok {samples : List LiveStats}
    (h : (run source plugin watched world).1.result = .ok samples) :
    (answers source plugin watched.entries world).1.map (·.reply.result) = samples.map .ok ∧
      Issues source plugin watched world watched.size := by
  rcases forall_ok_or_exists_error (answers source plugin watched.entries world).1 with hok | herror
  · obtain ⟨found, hfound, hmap, hissues⟩ := run_of_ok hok
    rw [h, Except.ok.injEq] at hfound
    exact hfound ▸ ⟨hmap, hissues⟩
  · obtain ⟨failure, _, _, hfailure, _⟩ := run_of_error herror
    rw [h] at hfailure
    cases hfailure

end Outcome

end PollAudit.Batch
