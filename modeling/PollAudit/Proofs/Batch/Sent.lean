import PollAudit.Audit.Batch

namespace PollAudit.Batch

/-- What is noted while a batch sends its requests, given their answers. -/
def sendEvents (sent : List Pending) : List Event :=
  sent.flatMap fun pending =>
    pending.reply.events ++
      match Slot.ofPending pending with
      | .finished (.ok stats) => stats.events
      | _ => []

/-- How a batch stands once its requests are sent. -/
def standingOf (gathering : Gathering) (sent : List Pending) : Standing where
  slots := sent.map Slot.ofPending
  events := sendEvents sent
  failure := failure? gathering (sent.map Slot.ofPending)

/-- The reply of a batch, given the answers to the requests that it sent. -/
def settle (gathering : Gathering) (sent : List Pending) : Reply (List LiveStats) :=
  let standing := standingOf gathering sent
  match standing.failure with
  | some failure => ⟨.error failure, standing.events⟩
  | none =>
    let settled := rounds gathering (span standing.slots) standing.slots
    let events := standing.events ++ settled.events
    match settled.failure with
    | some failure => ⟨.error failure, events⟩
    | none => ⟨settled.slots.mapM Slot.result, events⟩

variable {σ : Type} (source : Source (StateM σ)) (plugin : String) (gathering : Gathering)

/-- The answers to the requests that a batch sends behind those in `before`, and the world behind
them. A failure that ends the batch keeps the later requests from being sent. -/
def sends (before : List Pending) : List Watch → σ → List Pending × σ
  | [], world => ([], world)
  | watch :: rest, world =>
    let (pending, world) := source.stats plugin watch.name world
    if failure? gathering ((before ++ [pending]).map Slot.ofPending) = none then
      let (later, world) := sends (before ++ [pending]) rest world
      (pending :: later, world)
    else ([pending], world)

section Equations

variable {source plugin gathering} {before : List Pending} {watch : Watch} {rest : List Watch}
  {world world' : σ} {pending : Pending}

/-- Without networks nothing is sent. -/
@[simp] theorem sends_nil : sends source plugin gathering before [] world = ([], world) := rfl

/-- While no request has failed at once, the next one is sent too. -/
theorem sends_cons_of_none (h : source.stats plugin watch.name world = (pending, world'))
    (hnone : failure? gathering ((before ++ [pending]).map Slot.ofPending) = none) :
    sends source plugin gathering before (watch :: rest) world =
      (pending :: (sends source plugin gathering (before ++ [pending]) rest world').1,
        (sends source plugin gathering (before ++ [pending]) rest world').2) := by
  rw [sends, h]
  exact if_pos hnone

/-- A request that fails at once is the last one sent. -/
theorem sends_cons_of_some (h : source.stats plugin watch.name world = (pending, world'))
    (hsome : failure? gathering ((before ++ [pending]).map Slot.ofPending) ≠ none) :
    sends source plugin gathering before (watch :: rest) world = ([pending], world') := by
  rw [sends, h]
  exact if_neg hsome

end Equations

private theorem sendEvents_append (first second : List Pending) :
    sendEvents (first ++ second) = sendEvents first ++ sendEvents second :=
  List.flatMap_append

private theorem sendEvents_singleton (pending : Pending) :
    sendEvents [pending] = pending.reply.events ++
      match Slot.ofPending pending with
      | .finished (.ok stats) => stats.events
      | _ => [] :=
  List.append_nil _

/-- One request is sent, and the others follow unless the batch has failed. -/
theorem send_cons {before : List Pending} {watch : Watch} {rest : List Watch} {world world' : σ}
    {pending : Pending} (h : source.stats plugin watch.name world = (pending, world')) :
    send source plugin gathering (before.map Slot.ofPending) (sendEvents before) (watch :: rest)
        world =
      match failure? gathering ((before ++ [pending]).map Slot.ofPending) with
      | some failure =>
        (⟨(before ++ [pending]).map Slot.ofPending, sendEvents (before ++ [pending]),
          some failure⟩, world')
      | none =>
        send source plugin gathering ((before ++ [pending]).map Slot.ofPending)
          (sendEvents (before ++ [pending])) rest world' := by
  rw [send, sendEvents_append, sendEvents_singleton, ← List.append_assoc]
  simp only [bind, StateT.bind, h, List.map_append, List.map_cons, List.map_nil]
  cases failure? gathering (before.map Slot.ofPending ++ [Slot.ofPending pending]) with
  | some failure => rfl
  | none => rfl

/-- Sending leaves the batch standing the way its answers say. -/
theorem send_eq_standingOf (before : List Pending)
    (hbefore : failure? gathering (before.map Slot.ofPending) = none) (entries : List Watch)
    (world : σ) :
    send source plugin gathering (before.map Slot.ofPending) (sendEvents before) entries world =
      (standingOf gathering (before ++ (sends source plugin gathering before entries world).1),
        (sends source plugin gathering before entries world).2) := by
  induction entries generalizing before world with
  | nil =>
    rw [sends_nil, List.append_nil, standingOf, hbefore]
    rfl
  | cons watch rest ih =>
    rcases h : source.stats plugin watch.name world with ⟨pending, world'⟩
    rw [send_cons source plugin gathering h]
    cases hfailure : failure? gathering ((before ++ [pending]).map Slot.ofPending) with
    | some failure =>
      rw [sends_cons_of_some h (by rw [hfailure]; exact nofun), standingOf, hfailure]
    | none =>
      rw [sends_cons_of_none h hfailure]
      simp only [ih _ hfailure, List.append_assoc, List.singleton_append]

/-- A batch ends the way the answers to its requests say. -/
theorem run_eq_settle (watched : Watched) (world : σ) :
    run source plugin watched world =
      (settle (.ofSize watched.size)
        (sends source plugin (.ofSize watched.size) [] watched.entries world).1,
        (sends source plugin (.ofSize watched.size) [] watched.entries world).2) := by
  generalize hout : sends source plugin (.ofSize watched.size) [] watched.entries world = out
  have hsend : send source plugin (.ofSize watched.size) [] [] watched.entries world =
      (standingOf (.ofSize watched.size) out.1, out.2) := by
    rw [← hout]
    exact send_eq_standingOf source plugin (.ofSize watched.size) [] rfl watched.entries world
  simp only [run, bind, StateT.bind, hsend, settle]
  generalize standingOf (.ofSize watched.size) out.1 = standing
  cases standing.failure with
  | some failure => rfl
  | none =>
    simp only
    cases (rounds (.ofSize watched.size) (span standing.slots) standing.slots).failure with
    | some failure => rfl
    | none => rfl

end PollAudit.Batch
