import PollAudit.Audit.Run

namespace PollAudit

variable {m n : Type → Type} [Monad m] [Monad n] [MonadLiftT m n]

/-- The same source for a program that has more effects than its requests. -/
def Source.lift (source : Source m) : Source n where
  listings := liftM source.listings
  tree := liftM source.tree
  stats := fun plugin network => liftM (source.stats plugin network)

variable [LawfulMonadLiftT m n]

namespace Batch

private theorem send_lift (source : Source m) (plugin : String) (gathering : Gathering)
    (sent : List Slot) (events : List Event) (entries : List Watch) :
    send (source.lift : Source n) plugin gathering sent events entries =
      liftM (send source plugin gathering sent events entries) := by
  induction entries generalizing sent events with
  | nil => rw [send, send, liftM_pure]
  | cons watch rest ih =>
    rw [send, send, liftM_bind]
    simp only [Source.lift] at ih ⊢
    congr 1
    funext pending
    simp only [ih]
    split
    · rw [liftM_pure]
    · rfl

private theorem run_lift (source : Source m) (plugin : String) (watched : Watched) :
    run (source.lift : Source n) plugin watched = liftM (run source plugin watched) := by
  rw [run, run, liftM_bind, send_lift]
  congr 1
  funext sent
  cases sent.failure with
  | some failure => exact (liftM_pure (m := m) (n := n) _).symm
  | none =>
    simp only
    cases (rounds (.ofSize watched.size) (span sent.slots) sent.slots).failure with
    | some failure => exact (liftM_pure (m := m) (n := n) _).symm
    | none => exact (liftM_pure (m := m) (n := n) _).symm

end Batch

namespace Monitor

namespace Step

/-- The same part of a cycle in a program that has more effects. -/
def lift {α : Type} (step : Step m α) : Step n α :=
  fun turn => liftM (step turn)

variable {α β : Type}

omit [Monad m] [Monad n] [LawfulMonadLiftT m n] in
/-- A condition is lifted branch by branch. -/
@[simp] theorem lift_ite (c : Prop) [Decidable c] (first second : Step m α) :
    (if c then first else second).lift =
      (if c then first.lift else second.lift : Step n α) :=
  apply_ite lift c first second

/-- A result needs nothing of the monad that it is lifted to. -/
@[simp] theorem lift_pure (a : α) : (pure a : Step m α).lift = (pure a : Step n α) := by
  funext turn
  exact liftM_pure (m := m) (n := n) _

/-- A sequence is lifted step by step. -/
@[simp] theorem lift_bind (step : Step m α) (next : α → Step m β) :
    (step >>= next).lift = (step.lift >>= fun a => (next a).lift : Step n β) := by
  funext turn
  refine (liftM_bind (m := m) (n := n) (step turn) _).trans ?_
  refine bind_congr ?_
  rintro ⟨failure | a, turn⟩
  · exact liftM_pure (m := m) (n := n) _
  · rfl

/-- A failure is lifted to the same failure. -/
@[simp] theorem lift_throw (failure : Failure) :
    (throw failure : Step m α).lift = (throw failure : Step n α) := by
  funext turn
  exact liftM_pure (m := m) (n := n) _

/-- What a step does to its turn without failing, it does in the other program too. -/
theorem lift_state {action : StateT Turn m α} {action' : StateT Turn n α}
    (h : ∀ turn, (liftM (action turn) : n (α × Turn)) = action' turn) :
    lift (ExceptT.lift action : Step m α) = (ExceptT.lift action' : Step n α) := by
  funext turn
  change liftM (action turn >>= fun out => pure (Except.ok out.1, out.2)) =
    (action' turn >>= fun out => pure (Except.ok out.1, out.2))
  simp only [liftM_bind, liftM_pure, h]

/-- The turn is the same for a lifted step. -/
@[simp] theorem lift_get : (get : Step m Turn).lift = (get : Step n Turn) :=
  lift_state fun _ => liftM_pure (m := m) (n := n) _

/-- A change of the turn is lifted to the same change. -/
@[simp] theorem lift_modifyGet (change : Turn → α × Turn) :
    (modifyGet change : Step m α).lift = (modifyGet change : Step n α) :=
  lift_state fun _ => liftM_pure (m := m) (n := n) _

@[simp] theorem lift_note (events : List Event) :
    (note events : Step m Unit).lift = (note events : Step n Unit) :=
  lift_modifyGet _

@[simp] theorem lift_reconcile (operation : Reconciler → α × Reconciler) :
    (reconcile operation : Step m α).lift = (reconcile operation : Step n α) :=
  lift_modifyGet _

/-- A request is lifted to that of the lifted source. -/
@[simp] theorem lift_request (request : m α) :
    (liftM request : Step m α).lift = (liftM (liftM request : n α) : Step n α) := by
  refine lift_state (m := m) (n := n) fun turn => ?_
  change liftM (request >>= fun a => pure (a, turn)) =
    ((liftM request : n α) >>= fun a => pure (a, turn))
  simp only [liftM_bind, liftM_pure]

@[simp] theorem lift_ask (request : m (Reply α)) :
    (ask request).lift = (ask (liftM request : n (Reply α)) : Step n α) := by
  rw [ask, ask, lift_bind, lift_request]
  congr 1
  funext reply
  rw [lift_bind, lift_note]
  congr 1
  funext _
  cases reply.result with
  | ok a => exact lift_pure a
  | error failure => exact lift_throw failure

variable (source : Source m)

@[simp] theorem lift_refresh (reason : RefreshReason) :
    (refresh source reason).lift = (refresh source.lift reason : Step n Unit) := by
  simp only [refresh, lift_bind, lift_ask, lift_note, lift_get, lift_reconcile, lift_ite,
    Source.lift]

@[simp] theorem lift_sample : (sample source).lift = (sample source.lift : Step n Aggregate) := by
  simp only [sample, lift_bind, lift_ask, lift_note, lift_get, lift_pure, Batch.run_lift]

@[simp] theorem lift_compare (total : Count) :
    (compare source total).lift = (compare source.lift total : Step n Unit) := by
  rw [compare, compare, lift_bind, lift_reconcile]
  congr 1
  funext verdict
  cases verdict with
  | synced => exact lift_pure ()
  | mismatched streak => simp only [lift_bind, lift_get, lift_note, lift_refresh]

@[simp] theorem lift_report (aggregate : Aggregate) :
    (report aggregate : Step m CycleReport).lift = (report aggregate : Step n CycleReport) := by
  rw [report, report, lift_bind, lift_get]
  congr 1
  funext turn
  simp only
  cases (turn.monitor.reconciler.report aggregate).incorrect with
  | none => exact lift_pure _
  | some incorrect => simp only [lift_bind, lift_note, lift_pure]

private theorem lift_cycle : (cycle source).lift = (cycle source.lift : Step n CycleReport) := by
  simp only [cycle, lift_bind, lift_reconcile, lift_refresh, lift_sample, lift_compare, lift_report,
    lift_ite]

end Step

/-- A cycle does the same in a program that has more effects than the requests of the cycle: it has
no other effect. -/
theorem cycle_lift (source : Source m) (monitor : Monitor) :
    monitor.cycle (source.lift : Source n) = liftM (monitor.cycle source) := by
  rw [cycle, cycle, liftM_bind, ← Step.lift_cycle]
  congr 1
  funext out
  exact (liftM_pure (m := m) (n := n) _).symm

end Monitor
end PollAudit
