import PollAudit.Api.Source
import PollAudit.Proofs.Session.Cause
import PollAudit.Proofs.Session.Warning

namespace PollAudit

/-- No setting is to blame for the failure. -/
def Failure.IsForeign (failure : Failure) : Prop :=
  ∀ message, failure ≠ .setting message

private theorem Failure.isForeign_ofFault (fault : Http.Fault) : (ofFault fault).IsForeign := by
  intro message hsetting
  unfold ofFault at hsetting
  split at hsetting
  · cases hsetting
  · split at hsetting
    · split at hsetting <;> cases hsetting
    · cases hsetting

/-- Only a base that nothing can be added to is taken for a bad setting. -/
theorem Failure.isForeign_ofApi {error : ApiError} (h : ∀ url, error ≠ .unusableBase url) :
    (ofApi error).IsForeign := by
  cases error with
  | transport fault => exact isForeign_ofFault fault
  | unusableBase url => exact absurd rfl (h url)
  | rejected status url body => exact fun message => Failure.noConfusion
  | malformed message body => exact fun message => Failure.noConfusion

namespace Api

/-- The call warned of nothing and had a base to make its URL from. -/
structure Outcome.Sound {α : Type} (outcome : Outcome α) : Prop where
  quiet : Event.atLeast .warn outcome.events = []
  based : ∀ url, outcome.result ≠ .error (.unusableBase url)

namespace Outcome.Sound

variable {α β : Type} {outcome : Outcome α}

private theorem quiet_reply (h : outcome.Sound) (convert : α → β) :
    Event.atLeast .warn (outcome.reply convert).events = [] := h.quiet

private theorem isForeign_reply (h : outcome.Sound) (convert : α → β) {failure : Failure}
    (hfailure : (outcome.reply convert).failure? = some failure) : failure.IsForeign := by
  rcases outcome with ⟨error | a, events⟩
  · obtain rfl : Failure.ofApi error = failure := Option.some.inj hfailure
    exact Failure.isForeign_ofApi fun url hurl => h.based url (congrArg Except.error hurl)
  · cases hfailure

end Outcome.Sound

variable {σ α : Type} (api : Api) (exchange : Http.Exchange (StateM σ))

private theorem read_ne_unusableBase (decoder : Json.Decoder α) (url : Url)
    (response : Http.Response) (base : String) :
    read decoder url response ≠ .error (.unusableBase base) := by
  intro h
  unfold read at h
  split at h
  · cases h
  · simp only at h
    split at h
    · split at h <;> cases h
    · cases h

/-- A call ends as its request does and as the response is read, and it notes what it is for and
what it asks for. -/
theorem fetch_eq (purpose : Event) (decoder : Json.Decoder α) (url : Url) (world : σ) :
    api.fetch exchange purpose decoder url world =
      (⟨((Http.get exchange api.timeout url world).1.mapError .transport).bind (read decoder url),
        [purpose, { level := .debug, message := s!"GET {url.text}" }]⟩,
       (Http.get exchange api.timeout url world).2) := by
  rcases hget : Http.get exchange api.timeout url world with ⟨fault | response, world'⟩
  · simp only [fetch, bind, StateT.bind, hget]
    rfl
  · simp only [fetch, bind, StateT.bind, hget]
    rfl

/-- No call warns of anything, and none fails for want of a base, whatever the servers answer. -/
theorem sound_fetch {purpose : Event} (hpurpose : purpose.level = .debug)
    (decoder : Json.Decoder α) (url : Url) (world : σ) :
    (api.fetch exchange purpose decoder url world).1.Sound := by
  rw [fetch_eq]
  refine ⟨?_, fun base => ?_⟩
  · simp [Event.atLeast, hpurpose, Level.severity]
  · cases (Http.get exchange api.timeout url world).1 with
    | error fault => exact nofun
    | ok response => exact read_ne_unusableBase decoder url response base

/-- The call for the listing is sound, as a fetch with a purpose for the debug log. -/
theorem sound_listNetworks (world : σ) : (api.listNetworks exchange world).1.Sound :=
  api.sound_fetch exchange rfl ..

theorem sound_networkTree (world : σ) : (api.networkTree exchange world).1.Sound :=
  api.sound_fetch exchange rfl ..

theorem sound_networkStats (plugin network : String) (world : σ) :
    (api.networkStats exchange plugin network world).1.Sound :=
  api.sound_fetch exchange rfl ..

/-- The service never warns of anything itself. -/
theorem always_quiet : (api.source exchange).Always fun answer => answer.warnings = [] where
  listings world := (api.sound_listNetworks exchange world).quiet_reply _
  tree world := (api.sound_networkTree exchange world).quiet_reply _
  stats plugin network world :=
    (api.sound_networkStats exchange plugin network world).quiet_reply _

/-- The service never fails of a setting. -/
theorem always_foreign : (api.source exchange).Always fun answer =>
    ∀ failure, answer.failure? = some failure → failure.IsForeign where
  listings world _ h := (api.sound_listNetworks exchange world).isForeign_reply _ h
  tree world _ h := (api.sound_networkTree exchange world).isForeign_reply _ h
  stats plugin network world _ h :=
    (api.sound_networkStats exchange plugin network world).isForeign_reply _ h

end Api

end PollAudit
