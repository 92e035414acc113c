import Mathlib.Logic.Function.Iterate
import PollAudit.Audit.Script
import PollAudit.Proofs.Batch.Answers

namespace PollAudit

namespace Script

variable {α β : Type}

/-- The script once its next answer is taken. -/
def rest (script : Script α) : Script α :=
  script.next?.2

private theorem next?_map (f : α → β) (script : Script α) :
    next? (script.map f) = (script.next?.1.map f, script.rest.map f) := by
  rcases script with _ | ⟨first, _ | ⟨second, later⟩⟩ <;> rfl

/-- Takes an answer for each of the names in turn, each from the script filed under it. A name
whose script is empty has a default answer. -/
def draws (default : String → α) :
    List String → (String → Script α) → List α × (String → Script α)
  | [], scripts => ([], scripts)
  | name :: names, scripts =>
    let (later, scripts') := draws default names (Function.update scripts name (scripts name).rest)
    ((scripts name).next?.1.getD (default name) :: later, scripts')

variable (default : String → α)

/-- A script is read once for each time that its name is drawn, and not at all otherwise. -/
theorem draws_snd (names : List String) (scripts : String → Script α) (name : String) :
    (draws default names scripts).2 name = rest^[names.count name] (scripts name) := by
  induction names generalizing scripts with
  | nil => rfl
  | cons first names ih =>
    rw [draws]
    simp only [ih]
    by_cases h : first = name
    · subst h
      rw [Function.update_self, List.count_cons_self, Function.iterate_succ_apply]
    · rw [Function.update_of_ne (Ne.symm h), List.count_cons_of_ne h]

/-- What is drawn depends on the order of the names as little as it can: the answers are those of
the same names in another order, and the scripts end up the same. -/
theorem draws_perm {names names' : List String} (h : names.Perm names')
    (scripts : String → Script α) :
    (draws default names scripts).1.Perm (draws default names' scripts).1 ∧
      (draws default names scripts).2 = (draws default names' scripts).2 := by
  induction h generalizing scripts with
  | nil => exact ⟨.rfl, rfl⟩
  | cons name _ ih =>
    obtain ⟨hanswers, hscripts⟩ := ih (Function.update scripts name (scripts name).rest)
    exact ⟨hanswers.cons _, hscripts⟩
  | swap first second names =>
    by_cases h : first = second
    · subst h
      exact ⟨.rfl, rfl⟩
    · -- The two names have scripts of their own, so neither draw sees the other.
      simp only [draws, Function.update_of_ne h, Function.update_of_ne (Ne.symm h),
        Function.update_comm h]
      exact ⟨.swap _ _ _, trivial⟩
  | trans _ _ ih ih' =>
    exact ⟨(ih scripts).1.trans (ih' scripts).1, (ih scripts).2.trans (ih' scripts).2⟩

/-- Draws from scripts that are mapped give mapped entries. -/
theorem draws_map (f : α → β) (names : List String) (scripts : String → Script α) :
    draws (fun name => f (default name)) names (fun name => (scripts name).map f) =
      ((draws default names scripts).1.map f,
        fun name => ((draws default names scripts).2 name).map f) := by
  induction names generalizing scripts with
  | nil => rfl
  | cons name names ih =>
    have hupdate : Function.update (fun other => (scripts other).map f) name
        (rest ((scripts name).map f)) =
        fun other => (Function.update scripts name (scripts name).rest other).map f := by
      funext other
      by_cases h : other = name
      · subst h
        rw [Function.update_self, Function.update_self, rest, next?_map]
      · rw [Function.update_of_ne h, Function.update_of_ne h]
    have hfirst : ((scripts name).next?.1.map f).getD (f (default name)) =
        f ((scripts name).next?.1.getD (default name)) :=
      Option.getD_map f (default name) _
    simp only [draws, hupdate, ih, next?_map, hfirst, List.map_cons]

end Script

/-- The request that a scripted answer makes. -/
def ScriptedStats.pending (answer : ScriptedStats) : Pending :=
  ⟨answer.delay, ⟨answer.result, []⟩⟩

namespace ScriptedSource

/-- The answers still to be given to requests for the counters of `name`. -/
def script (world : ScriptedSource) (name : String) : Script ScriptedStats :=
  (world.stats.lookup name).getD []

private theorem nextStats_fst (name : String) (stats : List (String × Script ScriptedStats)) :
    (nextStats name stats).1 =
      (Script.next? ((stats.lookup name).getD [])).1.getD (unknownNetwork name) := by
  induction stats with
  | nil => rfl
  | cons entry rest ih =>
    rcases entry with ⟨key, script⟩
    by_cases h : key = name
    · subst h
      rw [nextStats, if_pos rfl, List.lookup_cons_self]
      rfl
    · rw [nextStats, if_neg h, List.lookup_cons, beq_false_of_ne (Ne.symm h)]
      exact ih

private theorem lookup_nextStats_self (name : String)
    (stats : List (String × Script ScriptedStats)) :
    ((nextStats name stats).2.lookup name).getD [] =
      Script.rest ((stats.lookup name).getD []) := by
  induction stats with
  | nil => rfl
  | cons entry rest ih =>
    rcases entry with ⟨key, script⟩
    by_cases h : key = name
    · subst h
      rw [nextStats, if_pos rfl, List.lookup_cons_self, List.lookup_cons_self]
      rfl
    · rw [nextStats, if_neg h, List.lookup_cons, List.lookup_cons, beq_false_of_ne (Ne.symm h)]
      exact ih

private theorem lookup_nextStats_of_ne {name other : String} (h : other ≠ name)
    (stats : List (String × Script ScriptedStats)) :
    (nextStats name stats).2.lookup other = stats.lookup other := by
  induction stats with
  | nil => rfl
  | cons entry rest ih =>
    rcases entry with ⟨key, script⟩
    by_cases hkey : key = name
    · subst hkey
      rw [nextStats, if_pos rfl, List.lookup_cons, List.lookup_cons, beq_false_of_ne h]
    · rw [nextStats, if_neg hkey, List.lookup_cons, List.lookup_cons]
      simp only [ih]

/-- A request for the counters of `name` takes the next answer of its script, and touches no other
script. -/
theorem source_stats (plugin name : String) (world : ScriptedSource) :
    ∃ stats, source.stats plugin name world =
        (((world.script name).next?.1.getD (unknownNetwork name)).pending,
          { world with stats := stats, statsCalls := world.statsCalls + 1 }) ∧
      (fun other => (stats.lookup other).getD []) =
        Function.update world.script name (world.script name).rest := by
  refine ⟨(nextStats name world.stats).2, ?_, ?_⟩
  · rw [script, ← nextStats_fst]
    rfl
  · funext other
    by_cases h : other = name
    · subst h
      rw [Function.update_self]
      exact lookup_nextStats_self other world.stats
    · rw [Function.update_of_ne h, lookup_nextStats_of_ne h]
      rfl

/-- The answers to the requests of a batch are drawn from the scripts of its networks. Each request
counts, and nothing else of the source is touched. -/
theorem answers_eq_draws (plugin : String) (entries : List Watch) (world : ScriptedSource) :
    let drawn := Script.draws unknownNetwork (entries.map (·.name)) world.script
    ∃ stats, Batch.answers source plugin entries world =
        (drawn.1.map ScriptedStats.pending,
          { world with stats := stats, statsCalls := world.statsCalls + entries.length }) ∧
      (fun name => (stats.lookup name).getD []) = drawn.2 := by
  induction entries generalizing world with
  | nil => exact ⟨world.stats, rfl, rfl⟩
  | cons watch rest ih =>
    obtain ⟨stats, hstats, hscripts⟩ := source_stats plugin watch.name world
    obtain ⟨stats', hanswers, hlater⟩ :=
      ih { world with stats := stats, statsCalls := world.statsCalls + 1 }
    have hscript : script { world with stats := stats, statsCalls := world.statsCalls + 1 } =
        Function.update world.script watch.name (world.script watch.name).rest := hscripts
    rw [hscript] at hanswers hlater
    refine ⟨stats', ?_, hlater⟩
    rw [Batch.answers_cons hstats, hanswers, List.length_cons, Nat.add_comm rest.length,
      ← Nat.add_assoc]
    rfl

end ScriptedSource

end PollAudit
