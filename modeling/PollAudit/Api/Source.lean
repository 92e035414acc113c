import PollAudit.Api.Fetch
import PollAudit.Audit.Source

namespace PollAudit

namespace Api

/-- The outcome of a call as the reply a monitor gets. -/
def Outcome.reply {α β : Type} (outcome : Outcome α) (convert : α → β) : Reply β :=
  ⟨match outcome.result with
    | .ok a => .ok (convert a)
    | .error error => .error (Failure.ofApi error),
    outcome.events⟩

/-- The service as the source of a monitor. Statistics go by the name they were asked for. -/
def source {m : Type → Type} [Monad m] (api : Api) (exchange : Http.Exchange m) : Source m where
  listings := do
    let outcome ← api.listNetworks exchange
    pure (outcome.reply (·.map Wire.Network.listing))
  tree := do
    let outcome ← api.networkTree exchange
    pure (outcome.reply (·.map Wire.Network.config))
  stats := fun plugin network => do
    let outcome ← api.networkStats exchange plugin network
    pure { reply := outcome.reply fun stats => { stats.live with network := network } }

end Api

end PollAudit
