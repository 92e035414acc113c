import PollAudit.Audit.Source
import PollAudit.Tree.Watched

namespace PollAudit

/-- What is noted when a network's counters arrive. -/
def LiveStats.events (stats : LiveStats) : List Event :=
  if stats.enabled then
    let sampled : Event :=
      { level := .debug
        message := "sampled polling stats"
        fields :=
          [("network", .text stats.network),
           ("queue", .number stats.queue.toNat),
           ("standby", .number stats.standby.toNat),
           ("in_flight", .number stats.inFlight.toNat),
           ("asap", .number stats.byPriority.asap.toNat),
           ("high", .number stats.byPriority.high.toNat),
           ("normal", .number stats.byPriority.normal.toNat),
           ("low", .number stats.byPriority.low.toNat),
           ("polls", .number stats.polls.toNat),
           ("busy", .text (stats.busyTime.getD "-"))] }
    let alert : Event :=
      { level := .warn
        message := "polling lockup alert"
        fields := [("network", .text stats.network), ("stalled", .text stats.lockups.text)] }
    if stats.lockups.any then [sampled, alert] else [sampled]
  else
    [{ level := .debug
       message := "network polling disabled; excluded this cycle"
       fields := [("network", .text stats.network)] }]

namespace Batch

/-- A request of a batch: `polls` polls short of its result, or finished. -/
inductive Slot
  | waiting (polls : Nat) (result : Except Failure LiveStats)
  | finished (result : Except Failure LiveStats)

namespace Slot

/-- The result the request has or will have. -/
def result : Slot → Except Failure LiveStats
  | waiting _ result => result
  | finished result => result

/-- The polls that leave the request unfinished. -/
def delay : Slot → Nat
  | waiting polls _ => polls + 1
  | finished _ => 0

/-- A request that was just sent and polled once. -/
def ofPending (pending : Pending) : Slot :=
  match pending.delay with
  | 0 => finished pending.reply.result
  | polls + 1 => waiting polls pending.reply.result

/-- One poll, and the events of the result if this poll found it. -/
def poll : Slot → Slot × List Event
  | waiting (polls + 1) result => (waiting polls result, [])
  | waiting 0 result => (finished result, (result.toOption.map LiveStats.events).getD [])
  | finished result => (finished result, [])

end Slot

/-- When a failed request ends its batch. -/
inductive Gathering
  /-- At once. -/
  | eager
  /-- When every request before it has succeeded. -/
  | ordered
deriving DecidableEq, Repr

/-- The size up to which a batch ends at once. -/
def eagerSize : Nat := 30

/-- A batch is watched as a whole while it is small, and gathered from the front otherwise. -/
def Gathering.ofSize (size : Nat) : Gathering :=
  if size ≤ eagerSize then .eager else .ordered

/-- The failure that ends a batch standing at `slots`. -/
def failure? (gathering : Gathering) : List Slot → Option Failure
  | [] => none
  | .finished (.error failure) :: _ => some failure
  | .finished (.ok _) :: rest => failure? gathering rest
  | .waiting .. :: rest =>
    match gathering with
    | .eager => failure? gathering rest
    | .ordered => none

/-- A batch under way or ended: its requests so far, the events noted, and the failure, if one
has ended it. -/
structure Standing where
  slots : List Slot
  events : List Event
  failure : Option Failure

/-- Sends the requests in order and polls each once. A failure ends the batch before the next
one is sent. -/
def send {m : Type → Type} [Monad m] (source : Source m) (plugin : String)
    (gathering : Gathering) (sent : List Slot) (events : List Event) :
    List Watch → m Standing
  | [] => pure ⟨sent, events, none⟩
  | watch :: rest => do
    let pending ← source.stats plugin watch.name
    let slot := Slot.ofPending pending
    let found :=
      match slot with
      | .finished (.ok stats) => stats.events
      | _ => []
    let sent := sent ++ [slot]
    let events := events ++ pending.reply.events ++ found
    match failure? gathering sent with
    | some failure => pure ⟨sent, events, some failure⟩
    | none => send source plugin gathering sent events rest

/-- Polls the unfinished requests once, in order, until a failure ends the batch. -/
def round (gathering : Gathering) (polled : List Slot) : List Slot → Standing
  | [] => ⟨polled, [], none⟩
  | slot :: rest =>
    let (slot, events) := slot.poll
    match failure? gathering (polled ++ slot :: rest) with
    | some failure => ⟨polled ++ slot :: rest, events, some failure⟩
    | none =>
      let later := round gathering (polled ++ [slot]) rest
      { later with events := events ++ later.events }

/-- Round after round, as many as the slowest request needs. -/
def rounds (gathering : Gathering) : Nat → List Slot → Standing
  | 0, slots => ⟨slots, [], none⟩
  | n + 1, slots =>
    let standing := round gathering [] slots
    match standing.failure with
    | some _ => standing
    | none =>
      let later := rounds gathering n standing.slots
      { later with events := standing.events ++ later.events }

/-- The rounds after which every request is finished. -/
def span (slots : List Slot) : Nat :=
  slots.foldl (fun most slot => max most slot.delay) 0

/-- Asks for the counters of every watched network at the same time. The batch fails as a whole
or has one sample per network, in order. -/
def run {m : Type → Type} [Monad m] (source : Source m) (plugin : String) (watched : Watched) :
    m (Reply (List LiveStats)) := do
  let gathering := Gathering.ofSize watched.size
  let sent ← send source plugin gathering [] [] watched.entries
  match sent.failure with
  | some failure => pure ⟨.error failure, sent.events⟩
  | none =>
    let standing := rounds gathering (span sent.slots) sent.slots
    let events := sent.events ++ standing.events
    match standing.failure with
    | some failure => pure ⟨.error failure, events⟩
    | none => pure ⟨standing.slots.mapM Slot.result, events⟩

end Batch

end PollAudit
