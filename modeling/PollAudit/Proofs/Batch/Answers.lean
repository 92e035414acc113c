import PollAudit.Proofs.Batch.Success

namespace PollAudit.Batch

variable {σ : Type} (source : Source (StateM σ)) (plugin : String)

/-- The answers to all requests of a batch, sent one after the other, and the world behind them.
A batch that fails early does not send them all. -/
def answers : List Watch → σ → List Pending × σ
  | [], world => ([], world)
  | watch :: rest, world =>
    let (pending, world) := source.stats plugin watch.name world
    let (later, world) := answers rest world
    (pending :: later, world)

variable {source plugin}

/-- Nothing is answered where nothing is asked. -/
@[simp] theorem answers_nil (world : σ) : answers source plugin [] world = ([], world) := rfl

/-- The first network is asked first, and the others in the world that this leaves. -/
theorem answers_cons {watch : Watch} {rest : List Watch} {world world' : σ} {pending : Pending}
    (h : source.stats plugin watch.name world = (pending, world')) :
    answers source plugin (watch :: rest) world =
      (pending :: (answers source plugin rest world').1, (answers source plugin rest world').2) := by
  rw [answers, h]

/-- Every request is answered. -/
@[simp] theorem length_answers (entries : List Watch) (world : σ) :
    (answers source plugin entries world).1.length = entries.length := by
  induction entries generalizing world with
  | nil => rfl
  | cons watch rest ih =>
    rcases hstats : source.stats plugin watch.name world with ⟨pending, world'⟩
    rw [answers_cons hstats, List.length_cons, List.length_cons, ih]

/-- The answers to the first requests do not depend on whether others follow. -/
theorem answers_take (entries : List Watch) (k : Nat) (world : σ) :
    (answers source plugin (entries.take k) world).1 =
      (answers source plugin entries world).1.take k := by
  induction entries generalizing k world with
  | nil => simp
  | cons watch rest ih =>
    cases k with
    | zero => rfl
    | succ k =>
      rcases hstats : source.stats plugin watch.name world with ⟨pending, world'⟩
      rw [List.take_succ_cons, answers_cons hstats, answers_cons hstats, List.take_succ_cons, ih]

/-- A batch that stops behind a request has just the answers up to it. -/
theorem answers_take_of_stop {front back : List Pending} {pending : Pending} {entries : List Watch}
    {world : σ} (h : (answers source plugin entries world).1 = front ++ pending :: back)
    (stops : Prop) [Decidable stops] :
    (answers source plugin
        (entries.take (if stops then front.length + 1 else entries.length)) world).1 =
      front ++ pending :: if stops then [] else back := by
  split
  · rw [answers_take, h, List.take_length_add_append]
    rfl
  · rw [List.take_length, h]

variable {gathering : Gathering}

/-- A batch that meets no failure while it sends gets every answer. -/
theorem sends_eq_answers {before : List Pending} {entries : List Watch} {world : σ}
    (h : ∀ sent, sent <+: (answers source plugin entries world).1 →
      failure? gathering ((before ++ sent).map Slot.ofPending) = none) :
    sends source plugin gathering before entries world = answers source plugin entries world := by
  induction entries generalizing before world with
  | nil => rfl
  | cons watch rest ih =>
    rcases hstats : source.stats plugin watch.name world with ⟨pending, world'⟩
    rw [answers_cons hstats] at h ⊢
    have hfirst := h [pending] (List.prefix_append [pending] _)
    have hlater : sends source plugin gathering (before ++ [pending]) rest world' =
        answers source plugin rest world' := by
      refine ih fun sent hsent => ?_
      rw [List.append_assoc, List.singleton_append]
      exact h (pending :: sent) (List.cons_prefix_cons.mpr ⟨rfl, hsent⟩)
    rw [sends_cons_of_none hstats hfirst, hlater]

/-- A batch that meets its first failure behind the answer `pending` sends no request after it. -/
theorem sends_eq_of_stop {before front back : List Pending} {pending : Pending}
    {entries : List Watch} {world : σ}
    (hanswers : (answers source plugin entries world).1 = front ++ pending :: back)
    (hnone : ∀ sent, sent <+: front →
      failure? gathering ((before ++ sent).map Slot.ofPending) = none)
    (hstop : failure? gathering ((before ++ (front ++ [pending])).map Slot.ofPending) ≠ none) :
    sends source plugin gathering before entries world =
      answers source plugin (entries.take (front.length + 1)) world := by
  induction front generalizing before entries world with
  | nil =>
    cases entries with
    | nil => cases hanswers
    | cons watch rest =>
      rcases hstats : source.stats plugin watch.name world with ⟨first, world'⟩
      rw [answers_cons hstats] at hanswers
      obtain rfl : first = pending := (List.cons.inj hanswers).1
      rw [sends_cons_of_some hstats hstop, List.length_nil, List.take_succ_cons, List.take_zero,
        answers_cons hstats, answers_nil]
  | cons other front ih =>
    cases entries with
    | nil => cases hanswers
    | cons watch rest =>
      rcases hstats : source.stats plugin watch.name world with ⟨first, world'⟩
      rw [answers_cons hstats] at hanswers
      obtain ⟨rfl, hrest⟩ := List.cons.inj hanswers
      have hfirst := hnone [first] (List.prefix_append [first] _)
      have hlater : sends source plugin gathering (before ++ [first]) rest world' =
          answers source plugin (rest.take (front.length + 1)) world' := by
        refine ih hrest (fun sent hsent => ?_) ?_
        · rw [List.append_assoc, List.singleton_append]
          exact hnone _ (List.cons_prefix_cons.mpr ⟨rfl, hsent⟩)
        · rwa [List.append_assoc, List.singleton_append]
      rw [sends_cons_of_none hstats hfirst, hlater, List.length_cons, List.take_succ_cons,
        answers_cons hstats]

end PollAudit.Batch
