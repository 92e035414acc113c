import PollAudit.Proofs.Batch.Outcome
import PollAudit.Proofs.Session.World

namespace PollAudit

namespace Session

variable {s : Session ScriptedSource} (hs : s.source = ScriptedSource.source)
include hs

/-- A request for the tree touches no script of counters. -/
theorem script_opening : s.opening.script = s.world.script := by
  rw [opening, hs]
  split <;> rfl

/-- Between two cycles the scripts of counters stand as the batch of the first one left them. -/
theorem script_next : s.account.batch = none ∧ s.next.world.script = s.world.script ∨
    s.account.batch = some s.sampling.1 ∧ s.next.world.script = s.sampling.2.script := by
  rcases hscheduled : s.account.scheduled.bind Reply.failure? with _ | failure
  · obtain ⟨hbatch, ⟨_, hworld⟩ | ⟨reply, _, htree⟩⟩ := next_world_of_sampled hscheduled
    · exact .inr ⟨hbatch, by rw [hworld]⟩
    · rw [hs] at htree
      have hworld : s.next.world = (ScriptedSource.source.tree s.sampling.2).2 := by rw [htree]
      exact .inr ⟨hbatch, by rw [hworld]; rfl⟩
  · exact .inl ⟨account_batch_eq_none hscheduled,
      by rw [next_world_of_missed hscheduled, script_opening hs]⟩

end Session

namespace Batch

variable {plugin : String} {watched : Watched}

/-- A batch moves the scripts of the networks that it asked, once for each request, and no other
script. -/
theorem Issues.scripts {world : ScriptedSource} {k : Nat}
    (h : Issues ScriptedSource.source plugin watched world k) :
    (run ScriptedSource.source plugin watched world).2.statsCalls = world.statsCalls + k ∧
      ∀ name, (run ScriptedSource.source plugin watched world).2.script name =
        Script.rest^[((watched.entries.take k).map (·.name)).count name] (world.script name) := by
  have hk : k ≤ watched.entries.length := by
    rw [← h.number, h.requests, exchanges, List.length_zipWith]
    exact Nat.min_le_left _ _
  obtain ⟨stats, hanswers, hscripts⟩ :=
    ScriptedSource.answers_eq_draws plugin (watched.entries.take k) world
  rw [h.left, hanswers]
  refine ⟨?_, fun name => ?_⟩
  · rw [List.length_take_of_le hk]
  · rw [← Script.draws_snd ScriptedSource.unknownNetwork]
    exact congrFun hscripts name

/-- How a batch ends, for any results and any delays of its requests. It succeeds if and only if all
of them succeed, and it then makes them all. Otherwise it fails of what one request failed of. In a
batch of at most `eagerSize` requests that is the one of least delay, the first in order of several
such; the requests behind it are not made if it was not kept waiting. In a larger batch it is the
first in order whatever the delays; the requests behind it are not made if no request up to it was
kept waiting. The scripts of requests that are not made stand in the next cycle as they stood. -/
theorem run_of_answers (plugin : String) (watched : Watched) :
    (∀ {σ : Type} (source : Source (StateM σ)) (world : σ),
      let replies := (answers source plugin watched.entries world).1
      let result := (run source plugin watched world).1.result
      ((∃ samples, result = .ok samples) ↔
        ∀ pending ∈ replies, ∃ stats, pending.reply.result = .ok stats) ∧
      (∀ samples, result = .ok samples → replies.map (·.reply.result) = samples.map .ok ∧
        Issues source plugin watched world watched.size) ∧
      ∀ failure, result = .error failure → ∃ p pending,
        (watched.size ≤ eagerSize → FailsLeast byDelay replies p pending failure ∧
          Issues source plugin watched world (if pending.delay = 0 then p + 1 else watched.size)) ∧
        (eagerSize < watched.size → FailsLeast byPosition replies p pending failure ∧
          Issues source plugin watched world
            (if ∀ other ∈ replies.take (p + 1), other.delay = 0 then p + 1 else watched.size))) ∧
    (∀ (world : ScriptedSource) (k : Nat), Issues ScriptedSource.source plugin watched world k →
      (run ScriptedSource.source plugin watched world).2.statsCalls = world.statsCalls + k ∧
      ∀ name, (run ScriptedSource.source plugin watched world).2.script name =
        Script.rest^[((watched.entries.take k).map (·.name)).count name] (world.script name)) ∧
    ∀ s : Session ScriptedSource, s.source = ScriptedSource.source →
      s.opening.script = s.world.script ∧
      (s.account.batch = none ∧ s.next.world.script = s.world.script ∨
        s.account.batch = some s.sampling.1 ∧ s.next.world.script = s.sampling.2.script) := by
  refine ⟨fun source world => ?_, fun world k hissues => hissues.scripts,
    fun s hs => ⟨Session.script_opening hs, Session.script_next hs⟩⟩
  intro replies result
  refine ⟨⟨?_, ?_⟩, fun samples => run_eq_ok, fun failure hfailure => ?_⟩
  · rintro ⟨samples, hsamples⟩
    exact forall_ok_of_map (run_eq_ok hsamples).1
  · intro hok
    obtain ⟨samples, hsamples, _⟩ := run_of_ok hok
    exact ⟨samples, hsamples⟩
  · rcases forall_ok_or_exists_error replies with hok | herror
    · obtain ⟨samples, hsamples, _⟩ := run_of_ok hok
      change result = .ok samples at hsamples
      rw [hsamples] at hfailure
      cases hfailure
    · obtain ⟨other, p, pending, hother, hends⟩ := run_of_error herror
      change result = .error other at hother
      rw [hother, Except.error.injEq] at hfailure
      exact hfailure ▸ ⟨p, pending, hends⟩

/-- Four networks of which two miss their counters. The last one to miss them does so at once. -/
def hasty : ScriptedSource where
  listings := .ok []
  stats :=
    [("A", [⟨.error (.timeout "A"), 1⟩]), ("B", [⟨.ok {}, 2⟩]), ("C", [⟨.error (.timeout "C"), 0⟩]),
      ("D", [⟨.ok {}, 0⟩, ⟨.error (.timeout "D"), 0⟩])]

/-- These networks as they are watched. -/
def hastyWatched : Watched :=
  ⟨[⟨⟨"a"⟩, "A"⟩, ⟨⟨"b"⟩, "B"⟩, ⟨⟨"c"⟩, "C"⟩, ⟨⟨"d"⟩, "D"⟩]⟩

/-- Their batch ends with its third request, and the fourth is not made. -/
theorem run_of_hasty :
    (run ScriptedSource.source "modbus" hastyWatched hasty).1.result = .error (.timeout "C") ∧
      (∃ p pending, FailsLeast byDelay
          (answers ScriptedSource.source "modbus" hastyWatched.entries hasty).1 p pending
          (.timeout "C") ∧
        Issues ScriptedSource.source "modbus" hastyWatched hasty
          (if pending.delay = 0 then p + 1 else 4)) ∧
      (run ScriptedSource.source "modbus" hastyWatched hasty).2.script "D" = hasty.script "D" := by
  have hresult : (run ScriptedSource.source "modbus" hastyWatched hasty).1.result =
      .error (.timeout "C") := by decide +kernel
  have hnumber : (requests ScriptedSource.source "modbus" hastyWatched hasty).length = 3 := by
    decide +kernel
  obtain ⟨hbatch, hscripts, _⟩ := run_of_answers "modbus" hastyWatched
  obtain ⟨_, _, herror⟩ := hbatch ScriptedSource.source hasty
  obtain ⟨p, pending, hsmall, _⟩ := herror _ hresult
  obtain ⟨hleast, hissues⟩ := hsmall (by decide)
  have hk := hissues.number.symm.trans hnumber
  refine ⟨hresult, ⟨p, pending, hleast, hissues⟩, ?_⟩
  rw [(hscripts hasty _ hissues).2 "D", hk]
  rfl

/-- Thirty-one networks. The first one misses its counters after one poll, the second one at
once. -/
def crowd : ScriptedSource where
  listings := .ok []
  stats :=
    [("A", [⟨.error (.timeout "A"), 1⟩]), ("B", [⟨.error (.timeout "B"), 0⟩]), ("C", [⟨.ok {}, 0⟩])]

/-- These networks as they are watched. -/
def crowdWatched : Watched :=
  ⟨⟨⟨"a"⟩, "A"⟩ :: ⟨⟨"b"⟩, "B"⟩ :: List.replicate 29 ⟨⟨"c"⟩, "C"⟩⟩

/-- The second one is the one that fails first, and yet the batch makes all of its requests and
fails of what the first one fails of. -/
theorem run_of_crowd :
    FailsLeast byDelay (answers ScriptedSource.source "modbus" crowdWatched.entries crowd).1 1
        ⟨0, ⟨.error (.timeout "B"), []⟩⟩ (.timeout "B") ∧
      (run ScriptedSource.source "modbus" crowdWatched crowd).1.result = .error (.timeout "A") ∧
      (requests ScriptedSource.source "modbus" crowdWatched crowd).length = 31 := by
  have hanswers : (answers ScriptedSource.source "modbus" crowdWatched.entries crowd).1 =
      [⟨1, ⟨.error (.timeout "A"), []⟩⟩] ++ ⟨0, ⟨.error (.timeout "B"), []⟩⟩ ::
        List.replicate 29 ⟨0, ⟨.ok {}, []⟩⟩ := rfl
  refine ⟨?_, by decide +kernel, by decide +kernel⟩
  rw [hanswers]
  refine Leads.failsLeast ⟨rfl, ?_, ?_⟩
  · intro other hother failure _
    obtain rfl := List.mem_singleton.mp hother
    exact Nat.le_refl _
  · intro other hother failure _
    exact Nat.zero_le _

end Batch

end PollAudit
