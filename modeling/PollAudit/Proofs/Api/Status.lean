import PollAudit.Proofs.Api.Documents
import PollAudit.Proofs.Program.Usage

namespace PollAudit

namespace Http

variable {σ : Type} {exchange : Exchange (StateM σ)} {response : Response} {place : Url}

/-- Asking for a URL within some time and following at most `hops` redirects, the last answer that
comes is `response`, and it comes from `place`. -/
inductive Arrives (exchange : Exchange (StateM σ)) :
    (timeout hops : Nat) → Url → σ → (place : Url) → Response → Prop
  | settled {timeout hops : Nat} {url : Url} {world world' : σ} {response : Response}
    (hask : ask exchange timeout url world = (.ok response, world'))
    (hstays : response.next? url = none) : Arrives exchange timeout hops url world url response
  | spent {timeout : Nat} {url next : Url} {world world' : σ} {response : Response}
    (hask : ask exchange timeout url world = (.ok response, world'))
    (hleads : response.next? url = some next) : Arrives exchange timeout 0 url world url response
  | followed {timeout hops : Nat} {url next place : Url} {world world' : σ} {response last : Response}
    (hask : ask exchange timeout url world = (.ok response, world'))
    (hleads : response.next? url = some next)
    (hlast : Arrives exchange (timeout - response.took) hops next world' place last) :
    Arrives exchange timeout (hops + 1) url world place last

/-- The last answer is what a request finds, unless it refers to one place more. -/
theorem follow_of_arrives {timeout hops : Nat} {url : Url} {world : σ}
    (h : Arrives exchange timeout hops url world place response) :
    (follow exchange timeout hops url world).1 =
      match response.next? place with
      | none => .ok response
      | some _ => .error (.tooManyRedirects place.text) := by
  induction h with
  | settled hask hstays => rw [follow_of_response _ hask hstays, hstays]
  | spent hask hleads =>
    simp only [follow, bind, StateT.bind, hask, hleads]
    rfl
  | followed hask hleads _ ih =>
    simp only [follow, bind, StateT.bind, hask, hleads]
    exact ih

/-- The answer is all that a request needs: its body came to an end, and it refers to no place that
was not asked. -/
def Response.IsWhole (response : Response) (place : Url) : Prop :=
  response.body.isSome ∧ response.next? place = none

/-- The answer lacks nothing but a body that came to an end in time. -/
structure Response.IsLate (response : Response) (place : Url) : Prop where
  body : response.body = none
  cut : response.cut = .late
  stays : response.next? place = none

instance : Decidable (response.IsLate place) :=
  decidable_of_iff (response.body = none ∧ response.cut = .late ∧ response.next? place = none)
    ⟨fun ⟨hbody, hcut, hstays⟩ => ⟨hbody, hcut, hstays⟩, fun h => ⟨h.body, h.cut, h.stays⟩⟩

/-- A fault stands for an answer that did not come whole, and keeps nothing of it: neither the
status, nor the place if the time was over. -/
structure Fault.StandsFor (fault : Fault) (response : Response) (place : Url) : Prop where
  lost : ¬ response.IsWhole place
  status : fault.status = none
  timedOut : fault.timedOut = true ↔ response.IsLate place
  url : response.IsLate place → fault.url = none

private theorem Fault.standsFor_tooManyRedirects {next : Url}
    (h : response.next? place = some next) :
    (tooManyRedirects place.text).StandsFor response place where
  lost hwhole := Option.some_ne_none _ (h.symm.trans hwhole.2)
  status := rfl
  timedOut := iff_of_false Bool.false_ne_true fun hlate =>
    Option.some_ne_none _ (h.symm.trans hlate.stays)
  url hlate := absurd (h.symm.trans hlate.stays) (Option.some_ne_none _)

private theorem Fault.standsFor_ofCut (hbody : response.body = none)
    (hstays : response.next? place = none) : (ofCut response.cut).StandsFor response place where
  lost hwhole := by simpa [hbody] using hwhole.1
  status := rfl
  timedOut := by
    rw [ofCut, beq_iff_eq]
    exact ⟨fun hcut => ⟨hbody, hcut, hstays⟩, fun hlate => hlate.cut⟩
  url _ := rfl

end Http

/-- A fault without a status is a timeout or a missing connection. -/
theorem Exit.status_of_fault {fault : Http.Fault} (h : fault.status = none) :
    (ofFailure (.ofFault fault)).status = if fault.timedOut then 8 else 7 := by
  cases htime : fault.timedOut with
  | true => simp [Failure.ofFault, htime, ofFailure, status]
  | false => simp [Failure.ofFault, htime, h, ofFailure, status]

private theorem Exit.ofFailure_of_timedOut {fault : Http.Fault} (htime : fault.timedOut = true)
    (hurl : fault.url = none) : ofFailure (.ofFault fault) = .timeout Failure.unknownUrl := by
  rw [Failure.ofFault, htime, hurl]
  rfl

namespace Api

/-- What becomes of an answer without success. The error of the call has the status of the answer
exactly if the answer came whole; the program then ends for a rejected request, with exit status 1.
Otherwise it ends as if no answer had come in time, with exit status 8, if the body was late, and as
if no connection had been made, with exit status 7, if it was anything else. -/
structure Reports (error : ApiError) (url place : Url) (response : Http.Response) : Prop where
  status : error.status? = some response.status ↔ response.IsWhole place
  rejected : response.IsWhole place →
    ∃ body, error = .rejected response.status url.text body ∧
      Exit.ofFailure (.ofApi error) = .rejected response.status url.text body ∧
      (Exit.ofFailure (.ofApi error)).status = 1
  lost : ¬ response.IsWhole place →
    error.status? = none ∧
      (Exit.ofFailure (.ofApi error)).status = if response.IsLate place then 8 else 7
  late : response.IsLate place → Exit.ofFailure (.ofApi error) = .timeout Failure.unknownUrl

private theorem Reports.of_rejected {url place : Url} {response : Http.Response} {body : String}
    (h : response.IsWhole place) :
    Reports (.rejected response.status url.text body) url place response where
  status := ⟨fun _ => h, fun _ => rfl⟩
  rejected _ := ⟨body, rfl, rfl, rfl⟩
  lost hnot := absurd h hnot
  late hlate := by simpa [hlate.body] using h.1

private theorem Reports.of_standsFor {fault : Http.Fault} {url place : Url}
    {response : Http.Response} (h : fault.StandsFor response place) :
    Reports (.transport fault) url place response where
  status := iff_of_false (fun hstatus => Option.some_ne_none _ (hstatus.symm.trans h.status)) h.lost
  rejected hwhole := absurd hwhole h.lost
  lost _ := by
    refine ⟨h.status, (Exit.status_of_fault h.status).trans ?_⟩
    simp only [h.timedOut]
  late hlate := Exit.ofFailure_of_timedOut (h.timedOut.mpr hlate) (h.url hlate)

variable {σ α : Type} (api : Api) (exchange : Http.Exchange (StateM σ))

/-- A request for a URL ends with this answer, which is no success. -/
structure Refused (url : Url) (world : σ) (place : Url) (response : Http.Response) : Prop where
  arrives : Http.Arrives exchange api.timeout Http.redirectLimit url.anonymous world place response
  status : Http.isSuccess response.status = false

variable {api exchange} {url place : Url} {world : σ} {response : Http.Response}

/-- Whatever the call is for, an answer without success is never taken for one. -/
theorem Refused.exists_error (h : api.Refused exchange url world place response) (purpose : Event)
    (decoder : Json.Decoder α) :
    ∃ error, (api.fetch exchange purpose decoder url world).1.result = .error error ∧
      Reports error url place response := by
  have hget : (Http.get exchange api.timeout url world).1 = _ := Http.follow_of_arrives h.arrives
  rw [fetch_eq, hget]
  cases hnext : response.next? place with
  | some next => exact ⟨_, rfl, .of_standsFor (Http.Fault.standsFor_tooManyRedirects hnext)⟩
  | none =>
    simp only [Except.mapError, Except.bind]
    cases hbody : response.body with
    | none =>
      refine ⟨.transport (.ofCut response.cut), ?_,
        .of_standsFor (Http.Fault.standsFor_ofCut hbody hnext)⟩
      rw [read, Http.Response.received, hbody]
    | some bytes =>
      have hwhole : response.IsWhole place := ⟨Option.isSome_iff_exists.mpr ⟨bytes, hbody⟩, hnext⟩
      refine ⟨.rejected _ _ (String.ofList (Text.Utf8.decodeLossy bytes)), ?_, .of_rejected hwhole⟩
      rw [read, Http.Response.received, hbody]
      exact if_neg (by simp [h.status])

private theorem Refused.listings (h : api.Refused exchange api.listing world place response) :
    ∃ error, ((api.source exchange).listings world).1.result = .error (.ofApi error) ∧
      Reports error api.listing place response := by
  obtain ⟨error, hresult, hreports⟩ :=
    h.exists_error { level := .debug, message := "listing networks" } Wire.decodeNetworks
  refine ⟨error, ?_, hreports⟩
  simp only [source, bind_run, listNetworks]
  simp only [pure_run, Outcome.reply, hresult]

private theorem Refused.tree (h : api.Refused exchange api.tree world place response) :
    ∃ error, ((api.source exchange).tree world).1.result = .error (.ofApi error) ∧
      Reports error api.tree place response := by
  obtain ⟨error, hresult, hreports⟩ :=
    h.exists_error { level := .debug, message := "fetching network tree" } Wire.decodeNetworks
  refine ⟨error, ?_, hreports⟩
  simp only [source, bind_run, networkTree]
  simp only [pure_run, Outcome.reply, hresult]

private theorem Refused.stats {plugin network : String}
    (h : api.Refused exchange (api.stats plugin network) world place response) :
    ∃ error,
      ((api.source exchange).stats plugin network world).1.reply.result = .error (.ofApi error) ∧
      Reports error (api.stats plugin network) place response := by
  obtain ⟨error, hresult, hreports⟩ := h.exists_error
    { level := .debug
      message := "fetching polling stats"
      fields := [("network", .text network)] } Wire.QueueStats.shape.decode
  refine ⟨error, ?_, hreports⟩
  simp only [source, bind_run, networkStats]
  simp only [pure_run, Outcome.reply, hresult]

end Api

namespace Program

variable {σ : Type} {surroundings : Surroundings (StateM σ)} {setting : Setting} {world : σ}

/-- The world in which a program makes its first request. -/
def asks (surroundings : Surroundings (StateM σ)) (setting : Setting) (world : σ) : σ :=
  (surroundings.tell
    [{ level := .debug
       message := "starting monitor"
       fields := [("url", .text setting.base.text), ("plugin", .text setting.plugin)] }] world).2

private theorem exit_of_listings {api : Api}
    (hserves : Api.ofUrl setting.base setting.timeout = .ok api)
    {failure : Failure}
    (h : ((api.source surroundings.exchange).listings (asks surroundings setting world)).1.result =
      .error failure) (cycles : Nat) :
    (watch surroundings setting cycles world).1.exit = some (Exit.ofFailure failure) := by
  rcases hlistings : (api.source surroundings.exchange).listings (asks surroundings setting world) with
    ⟨⟨result, events⟩, world'⟩
  rw [hlistings] at h
  obtain rfl : result = .error failure := h
  have hconnect : (Monitor.connect surroundings.exchange setting
      (asks surroundings setting world)).1.result = .error failure := by
    rw [Monitor.connect, hserves]
    simp only [bind_run, Monitor.start_of_error hlistings]
    rfl
  rw [watch, bind_run, bind_run]
  rw [asks] at hconnect
  simp only [bind_run, hconnect]
  rfl

end Program

namespace Api

/-- What becomes of a request that ends with an answer without success, whatever it is for. The call
fails, and its error has the status of the answer if and only if the answer came whole. So do all
three calls of the monitor, and a program whose first request ends so reports the status and ends
with exit status 1. An answer of which the body broke off, or behind which redirects went on, leaves
no status. -/
theorem status_of_refused {σ : Type} (exchange : Http.Exchange (StateM σ)) (api : Api) (place : Url)
    (world : σ) (response : Http.Response) :
    (∀ {α : Type} (purpose : Event) (decoder : Json.Decoder α) (url : Url),
      api.Refused exchange url world place response →
        ∃ error, (api.fetch exchange purpose decoder url world).1.result = .error error ∧
          Reports error url place response) ∧
    (api.Refused exchange api.listing world place response →
      ∃ error, ((api.source exchange).listings world).1.result = .error (.ofApi error) ∧
        Reports error api.listing place response) ∧
    (api.Refused exchange api.tree world place response →
      ∃ error, ((api.source exchange).tree world).1.result = .error (.ofApi error) ∧
        Reports error api.tree place response) ∧
    (∀ plugin network, api.Refused exchange (api.stats plugin network) world place response →
      ∃ error,
        ((api.source exchange).stats plugin network world).1.reply.result = .error (.ofApi error) ∧
        Reports error (api.stats plugin network) place response) ∧
    ∀ (surroundings : Program.Surroundings (StateM σ)) (setting : Setting) (cycles : Nat),
      surroundings.exchange = exchange → ofUrl setting.base setting.timeout = .ok api →
      api.Refused exchange api.listing (Program.asks surroundings setting world) place response →
        ∃ error, (Program.watch surroundings setting cycles world).1.exit =
            some (Exit.ofFailure (.ofApi error)) ∧ Reports error api.listing place response := by
  refine ⟨fun purpose decoder _ h => h.exists_error purpose decoder, Refused.listings, Refused.tree,
    fun _ _ => Refused.stats, ?_⟩
  rintro surroundings setting cycles rfl hserves h
  obtain ⟨error, hresult, hreports⟩ := h.listings
  exact ⟨error, Program.exit_of_listings hserves hresult cycles, hreports⟩

/-- A server that gives every request the same answer. -/
def stubborn (response : Http.Response) : Http.Exchange (StateM Unit) :=
  fun _ => pure (.response response)

private theorem refused_of_stubborn {response : Http.Response}
    (hstatus : Http.isSuccess response.status = false)
    (hstays : response.next? atRoot.listing.anonymous = none) :
    atRoot.Refused (stubborn response) atRoot.listing () atRoot.listing.anonymous response where
  arrives := .settled (Http.ask_of_response (by decide +kernel) (by decide) rfl) hstays
  status := hstatus

/-- An answer of a gateway that came whole. -/
def gateway : Http.Response := { status := 502, body := some [98, 97, 100] }

/-- The program that gets this answer reports its status and its body. -/
theorem status_of_gateway :
    let surroundings : Program.Surroundings (StateM Unit) :=
      { Program.unanswered with exchange := stubborn gateway }
    let setting : Setting := { base := atRoot.base, timeout := atRoot.timeout }
    atRoot.Refused (stubborn gateway) atRoot.listing () atRoot.listing.anonymous gateway ∧
      gateway.IsWhole atRoot.listing.anonymous ∧
      (∃ error body, (atRoot.listNetworks (stubborn gateway) ()).1.result = .error error ∧
        error = .rejected 502 atRoot.listing.text body) ∧
      ∃ body, (Program.watch surroundings setting 1 ()).1.exit =
        some (.rejected 502 atRoot.listing.text body) := by
  intro surroundings setting
  obtain ⟨hcall, -, -, -, hprogram⟩ := status_of_refused (stubborn gateway) atRoot _ () gateway
  have hrefused : atRoot.Refused (stubborn gateway) atRoot.listing () _ gateway :=
    refused_of_stubborn rfl rfl
  have hwhole : gateway.IsWhole atRoot.listing.anonymous := ⟨rfl, rfl⟩
  refine ⟨hrefused, hwhole, ?_, ?_⟩
  · obtain ⟨error, hresult, hreports⟩ := hcall
      { level := .debug, message := "listing networks" } Wire.decodeNetworks _ hrefused
    obtain ⟨body, herror, _⟩ := hreports.rejected hwhole
    exact ⟨error, body, hresult, herror⟩
  · obtain ⟨error, hexit, hreports⟩ := hprogram surroundings setting 1 rfl rfl hrefused
    obtain ⟨body, _, hexited, _⟩ := hreports.rejected hwhole
    exact ⟨body, hexit.trans (congrArg some hexited)⟩

/-- The same answer without the end of its body: the call knows of no status any more, and the
program ends with exit status 7, as if the server could not be reached, or with 8, as if it had said
nothing. -/
theorem status_lost_of_brokenBody :
    let answer (cut : Http.Cut) : Http.Response := { gateway with body := none, cut }
    Http.isSuccess gateway.status = false ∧
      (∃ error, (atRoot.listNetworks (stubborn (answer .broken)) ()).1.result = .error error ∧
        error.status? = none ∧ (Exit.ofFailure (.ofApi error)).status = 7) ∧
      ∃ error, (atRoot.listNetworks (stubborn (answer .late)) ()).1.result = .error error ∧
        error.status? = none ∧ (Exit.ofFailure (.ofApi error)).status = 8 := by
  intro answer
  have hlost (cut : Http.Cut) :
      ∃ error, (atRoot.listNetworks (stubborn (answer cut)) ()).1.result = .error error ∧
        error.status? = none ∧ (Exit.ofFailure (.ofApi error)).status =
          if (answer cut).IsLate atRoot.listing.anonymous then 8 else 7 := by
    have hrefused : atRoot.Refused (stubborn (answer cut)) atRoot.listing () _ (answer cut) :=
      refused_of_stubborn rfl rfl
    have hbroken : ¬ (answer cut).IsWhole atRoot.listing.anonymous := fun hwhole => nomatch hwhole.1
    obtain ⟨error, hresult, hreports⟩ := hrefused.exists_error
      { level := .debug, message := "listing networks" } Wire.decodeNetworks
    exact ⟨error, hresult, hreports.lost hbroken⟩
  exact ⟨rfl, hlost .broken, hlost .late⟩

end Api

end PollAudit
