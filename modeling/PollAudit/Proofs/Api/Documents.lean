import PollAudit.Proofs.Api.Source
import PollAudit.Proofs.Batch.Outcome
import PollAudit.Proofs.Text.Utf8
import PollAudit.Proofs.Wire.Counts

namespace PollAudit

namespace Http

variable {σ : Type} {exchange : Exchange (StateM σ)} {timeout : Nat} {url : Url} {world world' : σ}
  {response : Response}

/-- A URL that can be asked for gets the response that the server gives. -/
theorem ask_of_response (haskable : isAskable url = true) (hscheme : url.scheme ≠ "https")
    (h : exchange ⟨url, timeout⟩ world = (.response response, world')) :
    ask exchange timeout url world = (.ok response, world') := by
  simp only [ask, haskable, Bool.not_true, Bool.false_eq_true, if_false, hscheme, bind, StateT.bind, h]
  rfl

/-- A response that refers to no other place is what a request finds, however many redirects it
would follow. -/
theorem follow_of_response (hops : Nat) (h : ask exchange timeout url world = (.ok response, world'))
    (hstays : response.next? url = none) :
    follow exchange timeout hops url world = (.ok response, world') := by
  cases hops with
  | zero =>
    simp only [follow, bind, StateT.bind, h, hstays]
    rfl
  | succ hops =>
    simp only [follow, bind, StateT.bind, h, hstays]
    rfl

end Http

namespace Api

variable {σ : Type} (api : Api) (exchange : Http.Exchange (StateM σ))

/-- The world behind a request for a URL. -/
def behind (url : Url) (world : σ) : σ :=
  (Http.get exchange api.timeout url world).2

/-- A request for a URL succeeds, and the body that it finds is a document. -/
def Finds {α : Type} (decoder : Json.Decoder α) (url : Url) (world : σ) (document : α) : Prop :=
  ∃ response bytes, (Http.get exchange api.timeout url world).1 = .ok response ∧
    Http.isSuccess response.status = true ∧ response.body = some bytes ∧
    decoder.run (String.ofList (Text.Utf8.decodeLossy bytes)) = .ok document

/-- A text that comes with the answer, and that is a document, is found. -/
theorem finds_of_text {α : Type} {decoder : Json.Decoder α} {url : Url} {world world' : σ}
    {document : α} (text : String) (haskable : Http.isAskable url.anonymous = true)
    (hscheme : url.anonymous.scheme ≠ "https")
    (hanswer : exchange ⟨url.anonymous, api.timeout⟩ world =
      (.response { status := 200, body := some (Text.Utf8.encode text.toList) }, world'))
    (hrun : decoder.run text = .ok document) : api.Finds exchange decoder url world document := by
  have hget : Http.get exchange api.timeout url world =
      (.ok { status := 200, body := some (Text.Utf8.encode text.toList) }, world') :=
    Http.follow_of_response _ (Http.ask_of_response haskable hscheme hanswer) rfl
  refine ⟨_, _, congrArg Prod.fst hget, rfl, rfl, ?_⟩
  rw [Text.Utf8.decodeLossy_encode, String.ofList_toList, hrun]

/-- The requests for the counters of some networks, one after the other, all find documents. -/
inductive FindsAll (plugin : String) : List Watch → σ → List Wire.QueueStats → Prop
  | nil {world : σ} : FindsAll plugin [] world []
  | cons {watch : Watch} {rest : List Watch} {world : σ} {stats : Wire.QueueStats}
      {later : List Wire.QueueStats} :
    api.Finds exchange Wire.QueueStats.shape.decode (api.stats plugin watch.name) world stats →
    FindsAll plugin rest (api.behind exchange (api.stats plugin watch.name) world) later →
    FindsAll plugin (watch :: rest) world (stats :: later)

variable {api exchange} {plugin network : String} {world : σ}

namespace Finds

private theorem fetch {α : Type} {decoder : Json.Decoder α} {url : Url} {document : α}
    (h : api.Finds exchange decoder url world document) (purpose : Event) :
    ∃ events, api.fetch exchange purpose decoder url world =
      (⟨.ok document, events⟩, api.behind exchange url world) := by
  obtain ⟨response, bytes, hget, hstatus, hbody, hrun⟩ := h
  have hread : read decoder url response = .ok document := by
    simp only [read, Http.Response.received, hbody, hstatus, hrun, if_true]
  rw [fetch_eq, hget, Except.mapError, Except.bind, hread]
  exact ⟨_, rfl⟩

/-- A document for the listing is what the monitor gets for its discovery. -/
theorem listings {discovered : List Wire.Network}
    (h : api.Finds exchange Wire.decodeNetworks api.listing world discovered) :
    ∃ events, (api.source exchange).listings world =
      (⟨.ok (discovered.map Wire.Network.listing), events⟩,
        api.behind exchange api.listing world) := by
  obtain ⟨events, hfetch⟩ := h.fetch { level := .debug, message := "listing networks" }
  simp only [source, listNetworks, bind, StateT.bind, hfetch]
  exact ⟨events, rfl⟩

/-- A document for the tree is what the monitor gets for a refresh. -/
theorem tree {networks : List Wire.Network}
    (h : api.Finds exchange Wire.decodeNetworks api.tree world networks) :
    ∃ events, (api.source exchange).tree world =
      (⟨.ok (networks.map Wire.Network.config), events⟩, api.behind exchange api.tree world) := by
  obtain ⟨events, hfetch⟩ := h.fetch { level := .debug, message := "fetching network tree" }
  simp only [source, networkTree, bind, StateT.bind, hfetch]
  exact ⟨events, rfl⟩

private theorem stats {stats : Wire.QueueStats}
    (h : api.Finds exchange Wire.QueueStats.shape.decode (api.stats plugin network) world stats) :
    ∃ events, (api.source exchange).stats plugin network world =
      ({ reply := ⟨.ok { stats.live with network }, events⟩ },
        api.behind exchange (api.stats plugin network) world) := by
  obtain ⟨events, hfetch⟩ := h.fetch
    { level := .debug
      message := "fetching polling stats"
      fields := [("network", .text network)] }
  simp only [source, networkStats, bind, StateT.bind, hfetch]
  exact ⟨events, rfl⟩

end Finds

namespace FindsAll

private theorem answers {entries : List Watch} {documents : List Wire.QueueStats}
    (h : api.FindsAll exchange plugin entries world documents) :
    ∃ samples, Wire.Sampled documents samples ∧
      (Batch.answers (api.source exchange) plugin entries world).1.map (·.reply.result) =
        samples.map .ok := by
  induction h with
  | nil => exact ⟨[], .nil, rfl⟩
  | @cons watch _ _ stats _ hfirst _ ih =>
    obtain ⟨events, hstats⟩ := hfirst.stats
    obtain ⟨samples, hsampled, hlater⟩ := ih
    refine ⟨{ stats.live with network := watch.name } :: samples, .cons ⟨_, rfl⟩ hsampled, ?_⟩
    rw [Batch.answers_cons hstats, List.map_cons, List.map_cons, hlater]

/-- Then the batch of these requests samples what the documents say. -/
theorem run {watched : Watched} {documents : List Wire.QueueStats}
    (h : api.FindsAll exchange plugin watched.entries world documents) :
    ∃ samples, Wire.Sampled documents samples ∧
      (Batch.run (api.source exchange) plugin watched world).1.result = .ok samples := by
  obtain ⟨samples, hsampled, hanswers⟩ := h.answers
  obtain ⟨found, hrun, hfound, _⟩ := Batch.run_of_ok (Batch.forall_ok_of_map hanswers)
  have hok : Function.Injective (Except.ok : LiveStats → Except Failure LiveStats) :=
    fun _ _ => Except.ok.inj
  obtain rfl : found = samples := hok.list_map (hfound.symm.trans hanswers)
  exact ⟨found, hsampled, hrun⟩

end FindsAll

end Api

end PollAudit
