import PollAudit.Proofs.Batch.Sent
import PollAudit.Proofs.Cycle.Outcome

namespace PollAudit

/-- A request that was made of a source, with its answer. -/
inductive Exchange
  | listings (reply : Reply (List Listing))
  | tree (reply : Reply (List Network))
  | stats (plugin network : String) (pending : Pending)

namespace Exchange

/-- The answer to a request for the tree. -/
def tree? : Exchange → Option (Reply (List Network))
  | tree reply => some reply
  | _ => none

/-- The answer to a request for counters. -/
def stats? : Exchange → Option Pending
  | stats _ _ pending => some pending
  | _ => none

/-- What the request failed of. -/
def failure? : Exchange → Option Failure
  | listings reply => reply.failure?
  | tree reply => reply.failure?
  | stats _ _ pending => pending.reply.failure?

/-- A tree request fails as its reply does. -/
theorem failure?_of_tree? {exchange : Exchange} {reply : Reply (List Network)}
    (h : exchange.tree? = some reply) : exchange.failure? = reply.failure? := by
  cases exchange <;> cases h
  rfl

/-- A request for counters fails as its reply does. -/
theorem failure?_of_stats? {exchange : Exchange} {pending : Pending}
    (h : exchange.stats? = some pending) : exchange.failure? = pending.reply.failure? := by
  cases exchange <;> cases h
  rfl

end Exchange

/-- The same source with a log of the requests made of it. -/
def Source.logged {σ : Type} (source : Source (StateM σ)) :
    Source (StateM (σ × List Exchange)) where
  listings := fun (world, log) =>
    let (reply, world) := source.listings world
    (reply, world, log ++ [.listings reply])
  tree := fun (world, log) =>
    let (reply, world) := source.tree world
    (reply, world, log ++ [.tree reply])
  stats := fun plugin network (world, log) =>
    let (pending, world) := source.stats plugin network world
    (pending, world, log ++ [.stats plugin network pending])

variable {σ : Type} (source : Source (StateM σ))

variable {source} in
private theorem Source.logged_tree {world world' : σ} {reply : Reply (List Network)}
    (h : source.tree world = (reply, world')) (log : List Exchange) :
    source.logged.tree (world, log) = (reply, world', log ++ [.tree reply]) := by
  simp only [logged, h]

variable {source} in
private theorem Source.logged_stats {plugin network : String} {world world' : σ} {pending : Pending}
    (h : source.stats plugin network world = (pending, world')) (log : List Exchange) :
    source.logged.stats plugin network (world, log) =
      (pending, world', log ++ [.stats plugin network pending]) := by
  simp only [logged, h]

namespace Batch

variable (plugin : String) (gathering : Gathering)

/-- What a batch adds to the log. -/
def exchanges (entries : List Watch) (sent : List Pending) : List Exchange :=
  List.zipWith (fun watch pending => .stats plugin watch.name pending) entries sent

private theorem length_sends_le (before : List Pending) (entries : List Watch) (world : σ) :
    (sends source plugin gathering before entries world).1.length ≤ entries.length := by
  induction entries generalizing before world with
  | nil => exact Nat.le_refl 0
  | cons watch rest ih =>
    rcases hstats : source.stats plugin watch.name world with ⟨pending, world'⟩
    by_cases hnone : failure? gathering ((before ++ [pending]).map Slot.ofPending) = none
    · rw [sends_cons_of_none hstats hnone]
      exact Nat.succ_le_succ (ih _ _)
    · rw [sends_cons_of_some hstats hnone]
      exact Nat.succ_le_succ (Nat.zero_le _)

/-- The requests of a batch are what its log shows. -/
theorem stats?_exchanges {entries : List Watch} {sent : List Pending}
    (h : sent.length ≤ entries.length) :
    (exchanges plugin entries sent).filterMap Exchange.stats? = sent := by
  induction entries generalizing sent with
  | nil =>
    rw [List.length_nil, Nat.le_zero_eq, List.length_eq_zero_iff] at h
    subst sent
    rfl
  | cons watch rest ih =>
    cases sent with
    | nil => rfl
    | cons pending later =>
      exact congrArg (pending :: ·) (ih (Nat.le_of_succ_le_succ h))

/-- A batch asks for no tree. -/
theorem tree?_exchanges (entries : List Watch) (sent : List Pending) :
    (exchanges plugin entries sent).filterMap Exchange.tree? = [] := by
  induction entries generalizing sent with
  | nil => rfl
  | cons watch rest ih =>
    cases sent with
    | nil => rfl
    | cons pending later => exact ih later

/-- The log takes no part in a batch. -/
theorem sends_logged (before : List Pending) (entries : List Watch) (world : σ)
    (log : List Exchange) :
    let out := sends source plugin gathering before entries world
    sends source.logged plugin gathering before entries (world, log) =
      (out.1, out.2, log ++ exchanges plugin entries out.1) := by
  induction entries generalizing before world log with
  | nil => simp [exchanges]
  | cons watch rest ih =>
    rcases hstats : source.stats plugin watch.name world with ⟨pending, world'⟩
    have hlogged := Source.logged_stats hstats log
    by_cases hnone : failure? gathering ((before ++ [pending]).map Slot.ofPending) = none
    · rw [sends_cons_of_none hstats hnone, sends_cons_of_none hlogged hnone, ih]
      simp [exchanges]
    · rw [sends_cons_of_some hstats hnone, sends_cons_of_some hlogged hnone]
      simp [exchanges]

/-- A log takes no part in a batch but to note what was sent. -/
theorem run_logged (watched : Watched) (world : σ) (log : List Exchange) :
    let out := run source plugin watched world
    run source.logged plugin watched (world, log) =
      (out.1, out.2, log ++ exchanges plugin watched.entries
        (sends source plugin (.ofSize watched.size) [] watched.entries world).1) := by
  rw [run_eq_settle, run_eq_settle, sends_logged]

end Batch

namespace Monitor

/-- The answers to the requests for counters in the next cycle. -/
def sent (monitor : Monitor) (world : σ) : List Pending :=
  let sends (world : σ) := (Batch.sends source monitor.plugin (.ofSize monitor.watched.size) []
    monitor.watched.entries world).1
  if monitor.due then
    match source.tree world with
    | (⟨.error _, _⟩, _) => []
    | (⟨.ok _, _⟩, world) => sends world
  else sends world

/-- What the next cycle adds to the log: the scheduled tree, the counters and the tree fetched
anew, in this order. -/
def exchanges (monitor : Monitor) (world : σ) : List Exchange :=
  (monitor.account source world).1.scheduled.toList.map .tree ++
    Batch.exchanges monitor.plugin monitor.watched.entries (monitor.sent source world) ++
    (monitor.account source world).1.forced.toList.map .tree

section Sent

variable {source} {monitor : Monitor} {world world' : σ} {failure : Failure}
  {networks : List Network} {events : List Event}

/-- Where no tree is due the batch is sent from the world in which the cycle begins. -/
theorem sent_of_not_due (h : monitor.due = false) :
    monitor.sent source world = (Batch.sends source monitor.plugin
      (.ofSize monitor.watched.size) [] monitor.watched.entries world).1 := by
  rw [sent, if_neg (by simp [h])]

/-- Behind a failed scheduled tree nothing is sent. -/
theorem sent_of_error (hdue : monitor.due = true)
    (h : source.tree world = (⟨.error failure, events⟩, world')) :
    monitor.sent source world = [] := by
  rw [sent, if_pos hdue, h]

/-- Behind a scheduled tree the batch is sent from the world that it leaves. -/
theorem sent_of_ok (hdue : monitor.due = true)
    (h : source.tree world = (⟨.ok networks, events⟩, world')) :
    monitor.sent source world = (Batch.sends source monitor.plugin
      (.ofSize monitor.watched.size) [] monitor.watched.entries world').1 := by
  rw [sent, if_pos hdue, h]

/-- No more requests are sent than there are networks watched. -/
theorem length_sent_le :
    (monitor.sent source world).length ≤ monitor.watched.entries.length := by
  cases hdue : monitor.due with
  | false =>
    rw [sent_of_not_due hdue]
    exact Batch.length_sends_le ..
  | true =>
    rcases htree : source.tree world with ⟨⟨failure | networks, events⟩, world'⟩
    · rw [sent_of_error hdue htree]
      exact Nat.zero_le _
    · rw [sent_of_ok hdue htree]
      exact Batch.length_sends_le ..

/-- A cycle that gets as far as its sampling ends its batch the way the answers say. -/
theorem batch_eq_settle
    (h : (account source monitor world).1.scheduled.bind Reply.failure? = none) :
    ∃ before, monitor.sent source world = (Batch.sends source monitor.plugin
        (.ofSize monitor.watched.size) [] monitor.watched.entries before).1 ∧
      (account source monitor world).1.batch =
        some (Batch.settle (.ofSize monitor.watched.size) (monitor.sent source world)) := by
  cases hdue : monitor.due with
  | false =>
    refine ⟨world, sent_of_not_due hdue, ?_⟩
    rw [sent_of_not_due hdue, account_of_not_due hdue, accountFrom_batch, Batch.run_eq_settle]
  | true =>
    rcases htree : source.tree world with ⟨⟨failure | networks, events⟩, world'⟩
    · rw [account_of_error hdue htree] at h
      cases h
    · refine ⟨world', sent_of_ok hdue htree, ?_⟩
      rw [sent_of_ok hdue htree, account_of_ok hdue htree]
      simp only [accountFrom_batch, Batch.run_eq_settle]

end Sent

section Logged

variable (monitor : Monitor) (world : σ) (log : List Exchange)

private theorem accountFrom_logged (plugin : String) (watched : Watched) (held : Count) :
    let out := accountFrom source plugin watched held world
    accountFrom source.logged plugin watched held (world, log) =
      (out.1, out.2, log ++ Batch.exchanges plugin watched.entries
        (Batch.sends source plugin (.ofSize watched.size) [] watched.entries world).1 ++
          out.1.forced.toList.map .tree) := by
  have hlogged := Batch.run_logged source plugin watched world log
  rcases hbatch : Batch.run source plugin watched world with ⟨⟨failure | samples, events⟩, world'⟩
  · rw [hbatch] at hlogged
    rw [accountFrom_of_error hbatch, accountFrom_of_error hlogged]
    simp
  · rw [hbatch] at hlogged
    by_cases htotal : (Aggregate.ofSamples samples).total = held
    · rw [accountFrom_of_eq hbatch htotal, accountFrom_of_eq hlogged htotal]
      simp
    · rw [accountFrom_of_ne hbatch htotal, accountFrom_of_ne hlogged htotal]
      rfl

/-- The log takes no part in a cycle. -/
theorem account_logged :
    let out := account source monitor world
    account source.logged monitor (world, log) =
      (out.1, out.2, log ++ monitor.exchanges source world) := by
  cases hdue : monitor.due with
  | false =>
    rw [exchanges, sent_of_not_due hdue, account_of_not_due hdue, account_of_not_due hdue,
      accountFrom_logged, accountFrom_scheduled]
    simp
  | true =>
    rcases htree : source.tree world with ⟨⟨failure | networks, events⟩, world'⟩
    · have hlogged := Source.logged_tree htree log
      rw [exchanges, sent_of_error hdue htree, account_of_error hdue htree,
        account_of_error hdue hlogged]
      simp [Batch.exchanges]
    · have hlogged := Source.logged_tree htree log
      rw [exchanges, sent_of_ok hdue htree, account_of_ok hdue htree, account_of_ok hdue hlogged]
      simp only [accountFrom_logged]
      simp

end Logged

end Monitor

end PollAudit
