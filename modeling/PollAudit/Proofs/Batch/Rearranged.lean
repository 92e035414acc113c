import Mathlib.Data.List.Perm.Basic
import PollAudit.Proofs.Batch.Outcome
import PollAudit.Proofs.Tree.Rearranged

namespace PollAudit

/-- Both fail of the same, or both succeed with what corresponds under `r`. -/
inductive SameOutcome {α : Type} (r : α → α → Prop) : Except Failure α → Except Failure α → Prop
  | ok {x y : α} (h : r x y) : SameOutcome r (.ok x) (.ok y)
  | error (failure : Failure) : SameOutcome r (.error failure) (.error failure)

/-- A success has a success for its counterpart. -/
theorem SameOutcome.exists_ok {α : Type} {r : α → α → Prop} {x : α} {outcome : Except Failure α}
    (h : SameOutcome r (.ok x) outcome) : ∃ y, outcome = .ok y ∧ r x y := by
  cases h with
  | ok hxy => exact ⟨_, rfl, hxy⟩

/-- Scripts that correspond item by item give answers that correspond, and go on to do so. -/
theorem Script.next?_of_forall₂ {α : Type} {r : α → α → Prop} {xs ys : Script α} {default : α}
    (h : List.Forall₂ r xs ys) (hdefault : r default default) :
    r (xs.next?.1.getD default) (ys.next?.1.getD default) ∧ List.Forall₂ r xs.rest ys.rest := by
  cases h with
  | nil => exact ⟨hdefault, .nil⟩
  | cons hfirst hlater =>
    cases hlater with
    | nil => exact ⟨hfirst, .cons hfirst .nil⟩
    | cons hsecond hlater => exact ⟨hfirst, .cons hsecond hlater⟩

/-- The same source, but for the delays of its counters and for the order of the networks that it
lists and of the networks, devices and points in its trees. -/
structure ScriptedSource.Rearranged (a b : ScriptedSource) : Prop where
  listings : SameOutcome List.Perm a.listings b.listings
  trees : List.Forall₂ (SameOutcome (Rearranges Network.Alike)) a.trees b.trees
  stats : ∀ name, (a.script name).map ScriptedStats.result = (b.script name).map ScriptedStats.result
  listingCalls : a.listingCalls = b.listingCalls
  treeCalls : a.treeCalls = b.treeCalls
  statsCalls : a.statsCalls = b.statsCalls

namespace ScriptedSource.Rearranged

variable {a b : ScriptedSource}

/-- Such sources answer a request for the tree alike. -/
theorem tree (h : a.Rearranged b) :
    SameOutcome (Rearranges Network.Alike) (source.tree a).1.result (source.tree b).1.result ∧
      (source.tree a).2.Rearranged (source.tree b).2 := by
  obtain ⟨hfirst, hrest⟩ := Script.next?_of_forall₂ h.trees (.ok .nil)
  exact ⟨hfirst, h.listings, hrest, h.stats, h.listingCalls, congrArg (· + 1) h.treeCalls,
    h.statsCalls⟩

variable {entries entries' : List Watch} (plugin : String)

/-- Asked for the counters of the same networks in another order, they give the same answers in
another order. Networks of one name draw on one script, so each of them may find what the other one
found. -/
theorem answers (h : a.Rearranged b) (hentries : entries.Perm entries') :
    ((Batch.answers source plugin entries a).1.map (·.reply.result)).Perm
        ((Batch.answers source plugin entries' b).1.map (·.reply.result)) ∧
      (Batch.answers source plugin entries a).2.Rearranged
        (Batch.answers source plugin entries' b).2 := by
  obtain ⟨stats, hanswers, hscripts⟩ := answers_eq_draws plugin entries a
  obtain ⟨stats', hanswers', hscripts'⟩ := answers_eq_draws plugin entries' b
  rw [hanswers, hanswers']
  have hresults := Script.draws_map unknownNetwork ScriptedStats.result
    (entries.map (·.name)) a.script
  have hresults' := Script.draws_map unknownNetwork ScriptedStats.result
    (entries'.map (·.name)) b.script
  have hscript : (fun name => (a.script name).map ScriptedStats.result) =
      fun name => (b.script name).map ScriptedStats.result := funext h.stats
  obtain ⟨hperm, hleft⟩ := Script.draws_perm (fun name => (unknownNetwork name).result)
    (hentries.map (·.name)) fun name => (b.script name).map ScriptedStats.result
  rw [hscript] at hresults
  rw [hresults, hresults'] at hperm hleft
  refine ⟨?_, h.listings, h.trees, fun name => ?_, h.listingCalls, h.treeCalls, ?_⟩
  · rw [List.map_map, List.map_map]
    exact hperm
  · have hname := congrFun hleft name
    rw [← hscripts, ← hscripts'] at hname
    exact hname
  · simp only [h.statsCalls, hentries.length_eq]

/-- A batch that succeeds on one of them succeeds on the other one, with the same samples in another
order. -/
theorem run (h : a.Rearranged b) {watched watched' : Watched}
    (hwatched : watched.entries.Perm watched'.entries) {samples : List LiveStats}
    (hrun : (Batch.run source plugin watched a).1.result = .ok samples) :
    ∃ samples', (Batch.run source plugin watched' b).1.result = .ok samples' ∧
      samples.Perm samples' ∧
      (Batch.run source plugin watched a).2.Rearranged (Batch.run source plugin watched' b).2 := by
  obtain ⟨hresults, hworld⟩ := h.answers plugin hwatched
  obtain ⟨hmap, hissues⟩ := Batch.run_eq_ok hrun
  rw [hmap] at hresults
  have hok : ∀ pending ∈ (Batch.answers source plugin watched'.entries b).1,
      ∃ stats, pending.reply.result = .ok stats := by
    intro pending hpending
    obtain ⟨stats, _, hstats⟩ := List.mem_map.mp (hresults.mem_iff.mpr (List.mem_map_of_mem hpending))
    exact ⟨stats, hstats.symm⟩
  obtain ⟨samples', hrun', hmap', hissues'⟩ := Batch.run_of_ok hok
  rw [hmap'] at hresults
  refine ⟨samples', hrun', (List.map_perm_map_iff fun _ _ => Except.ok.inj).mp hresults, ?_⟩
  rw [hissues.left, hissues'.left, Watched.size, Watched.size, List.take_length, List.take_length]
  exact hworld

end ScriptedSource.Rearranged

end PollAudit
