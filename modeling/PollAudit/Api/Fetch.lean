import PollAudit.Api.Endpoint
import PollAudit.Event
import PollAudit.Http.Exchange
import PollAudit.Wire.Stats
import PollAudit.Wire.Tree

namespace PollAudit

namespace Api

/-- How a call ended, with the events noted while it was made. -/
structure Outcome (α : Type) where
  result : Except ApiError α
  events : List Event

/-- Reads the body of a response. It is received as a whole before the status is looked at, and
only the body of a success is decoded. -/
def read {α : Type} (decoder : Json.Decoder α) (url : Url) (response : Http.Response) :
    Except ApiError α :=
  match response.received with
  | .error cut => .error (.transport (.ofCut cut))
  | .ok bytes =>
    let body := String.ofList (Text.Utf8.decodeLossy bytes)
    if Http.isSuccess response.status then
      match decoder.run body with
      | .ok a => .ok a
      | .error fault => .error (.malformed fault.message body)
    else .error (.rejected response.status url.text body)

/-- Asks for a URL and decodes what is found there. The purpose is noted first. -/
def fetch {m : Type → Type} [Monad m] {α : Type} (api : Api) (exchange : Http.Exchange m)
    (purpose : Event) (decoder : Json.Decoder α) (url : Url) : m (Outcome α) := do
  let events := [purpose, { level := .debug, message := s!"GET {url.text}" }]
  match ← Http.get exchange api.timeout url with
  | .error fault => pure ⟨.error (.transport fault), events⟩
  | .ok response => pure ⟨read decoder url response, events⟩

variable {m : Type → Type} [Monad m]

/-- All networks, without their devices. -/
def listNetworks (api : Api) (exchange : Http.Exchange m) : m (Outcome (List Wire.Network)) :=
  api.fetch exchange { level := .debug, message := "listing networks" } Wire.decodeNetworks
    api.listing

/-- All networks with devices and points. -/
def networkTree (api : Api) (exchange : Http.Exchange m) : m (Outcome (List Wire.Network)) :=
  api.fetch exchange { level := .debug, message := "fetching network tree" } Wire.decodeNetworks
    api.tree

/-- The polling statistics of a network. -/
def networkStats (api : Api) (exchange : Http.Exchange m) (plugin network : String) :
    m (Outcome Wire.QueueStats) :=
  api.fetch exchange
    { level := .debug
      message := "fetching polling stats"
      fields := [("network", .text network)] }
    Wire.QueueStats.shape.decode (api.stats plugin network)

end Api

end PollAudit
