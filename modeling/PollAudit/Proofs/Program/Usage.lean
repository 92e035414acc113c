import PollAudit.Program
import PollAudit.Proofs.Api.Endpoint
import PollAudit.Proofs.Api.Source
import PollAudit.Proofs.CommandLine
import PollAudit.Proofs.Url.Parser

namespace PollAudit

variable {σ : Type}

/-- A computation that only returns leaves the world as it is. -/
theorem pure_run {α : Type} (a : α) (world : σ) : (pure a : StateM σ α) world = (a, world) := rfl

/-- What follows a computation is run in the world that the computation left. -/
theorem bind_run {α β : Type} (first : StateM σ α) (next : α → StateM σ β) (world : σ) :
    (first >>= next) world = next (first world).1 (first world).2 := rfl

namespace Monitor

/-- What ends a run is what a request failed of, or what its host gave for a report. -/
theorem ending_of_run {ε : Type} [Ending ε] {source : Source (StateM σ)} {host : Host (StateM σ) ε}
    {p : ε → Prop}
    (hsource : source.Always fun exchange =>
      ∀ failure, exchange.failure? = some failure → p (Ending.ofFailure failure))
    (hhost : ∀ report world ending, (host.report report world).1 = .error ending → p ending)
    (interval cycles : Nat) (monitor : Monitor) (world : σ) {ending : ε}
    (h : (monitor.run source host interval cycles world).1.1 = some ending) : p ending := by
  induction cycles generalizing monitor world with
  | zero => cases h
  | succ cycles ih =>
    let s : Session σ := ⟨source, monitor, world⟩
    have hcycle : monitor.cycle source world = ((s.reply, s.next.monitor), s.next.world) := rfl
    rw [run, bind_run, hcycle] at h
    simp only [bind_run] at h
    cases hreply : s.reply.result with
    | error failure =>
      rw [hreply] at h
      obtain rfl : Ending.ofFailure failure = ending := Option.some.inj h
      exact Session.failure_of_reply hsource hreply
    | ok report =>
      rw [hreply] at h
      simp only [bind_run] at h
      cases hhanded : (host.report report (host.tell s.reply.events s.next.world).2).1 with
      | error refused =>
        rw [hhanded] at h
        obtain rfl : refused = ending := Option.some.inj h
        exact hhost _ _ _ hhanded
      | ok taken =>
        rw [hhanded] at h
        by_cases hpause : interval = 0
        · simp only [if_neg (not_not_intro hpause)] at h
          exact ih _ _ h
        · simp only [if_pos hpause, bind_run] at h
          exact ih _ _ h

end Monitor

private theorem Exit.status_ofFailure {failure : Failure} (h : failure.IsForeign) :
    (ofFailure failure).status ≠ 2 := by
  cases failure with
  | setting message => exact absurd rfl (h message)
  | _ => simp [ofFailure, status]

private theorem Api.ofUrl_eq_ok {base : Url} (h : base.path.isFixed = false) (timeout : Nat) :
    ofUrl base timeout = .ok ⟨base, timeout, h⟩ := dif_pos h

/-- The base of every setting takes paths. -/
theorem Setting.isFixed_base {text : String} {setting : Setting}
    (h : ofAddress text = .ok setting) : setting.base.path.isFixed = false := by
  rw [ofAddress] at h
  split at h
  · rename_i base hparse
    cases h
    exact Url.isFixed_parse_http hparse
  · cases h

namespace Program

/-- What a program asks of servers and writes to its standard output. -/
structure Traffic where
  requests : List Http.Request := []
  written : List String := []

/-- The same surroundings with a record of the traffic. -/
def Surroundings.recorded (surroundings : Surroundings (StateM σ)) :
    Surroundings (StateM (σ × Traffic)) where
  exchange := fun request (world, traffic) =>
    let (answer, world) := surroundings.exchange request world
    (answer, world, { traffic with requests := traffic.requests ++ [request] })
  write := fun text (world, traffic) =>
    let (whole, world) := surroundings.write text world
    (whole, world, { traffic with written := traffic.written ++ [text] })
  colour := surroundings.colour
  tell := fun events (world, traffic) => ((), (surroundings.tell events world).2, traffic)
  pause := fun milliseconds (world, traffic) =>
    ((), (surroundings.pause milliseconds world).2, traffic)

/-- A request is recorded with all that it asks for. -/
example (surroundings : Surroundings (StateM σ)) (request : Http.Request) (world : σ) :
    (surroundings.recorded.exchange request (world, {})).2.2 = { requests := [request] } := rfl

variable (surroundings : Surroundings (StateM σ)) {text : String} {setting : Setting}
  {arguments : List String} {cycles : Nat} {world : σ}

/-- Connecting to a service whose base takes paths brings a monitor of it, or else fails, but not of
the setting. -/
theorem connect_cases (exchange : Http.Exchange (StateM σ))
    (hbase : setting.base.path.isFixed = false) (world : σ) :
    (∃ failure : Failure, failure.IsForeign ∧
        (Monitor.connect exchange setting world).1.result = .error failure) ∨
      ∃ monitor, (Monitor.connect exchange setting world).1.result =
        .ok (⟨setting.base, setting.timeout, hbase⟩, monitor) := by
  let api : Api := ⟨setting.base, setting.timeout, hbase⟩
  have hconnect : (Monitor.connect exchange setting world).1.result =
      (Monitor.start (api.source exchange) setting.plugin setting.policy world).1.result.map
        (api, ·) := by
    rw [Monitor.connect, Api.ofUrl_eq_ok hbase]
    rfl
  cases hstart : (Monitor.start (api.source exchange) setting.plugin setting.policy
      world).1.result with
  | error failure =>
    have hforeign := Session.failure_of_start (api.always_foreign exchange) hstart
    exact .inl ⟨failure, hforeign, by rw [hconnect, hstart]; rfl⟩
  | ok monitor => exact .inr ⟨monitor, by rw [hconnect, hstart]; rfl⟩

/-- A standard output that fails is not the fault of the setting. -/
theorem status_of_host {report : CycleReport} {ending : Exit}
    (h : (surroundings.host.report report world).1 = .error ending) : ending.status ≠ 2 := by
  simp only [Surroundings.host, bind_run] at h
  split at h
  · cases h
  · obtain rfl : Exit.output = ending := Except.error.inj h
    decide

/-- A service whose base takes paths is never watched to an end that its setting is to blame for. -/
theorem status_of_watch (hbase : setting.base.path.isFixed = false) {exit : Exit}
    (h : (watch surroundings setting cycles world).1.exit = some exit) : exit.status ≠ 2 := by
  rw [watch, bind_run, bind_run] at h
  generalize (surroundings.tell _ world).2 = told at h
  obtain ⟨failure, hforeign, hconnect⟩ | ⟨monitor, hconnect⟩ :=
    connect_cases surroundings.exchange hbase told
  · simp only [bind_run, hconnect] at h
    obtain rfl : Exit.ofFailure failure = exit := Option.some.inj h
    exact Exit.status_ofFailure hforeign
  · simp only [bind_run, hconnect] at h
    let api : Api := ⟨setting.base, setting.timeout, hbase⟩
    have hsource : (api.source surroundings.exchange).Always fun answer =>
        ∀ failure, answer.failure? = some failure →
          (Ending.ofFailure failure : Exit).status ≠ 2 :=
      (api.always_foreign surroundings.exchange).imp fun answer hanswer failure hfailure =>
        Exit.status_ofFailure (hanswer failure hfailure)
    exact Monitor.ending_of_run hsource (fun _ _ _ => status_of_host surroundings) _ _ _ _ h

/-- A text that makes no setting: it is no address, or its address makes no URL. -/
def Rejects (text : String) : Prop :=
  (∃ cause, Address.parse text = .error cause) ∨
    ∃ address failure, Address.parse text = .ok address ∧
      Setting.ofAddress address.text = .error failure

private theorem isSetting_of_ofAddress {failure : Failure}
    (h : Setting.ofAddress text = .error failure) :
    (Exit.ofFailure failure).status = 2 := by
  rw [Setting.ofAddress] at h
  split at h
  · cases h
  · cases h
    rfl

private theorem run_of_usage {m : Type → Type} [Monad m] (others : Surroundings m)
    {error : UsageError} (h : Command.parse arguments = .usage error) :
    run others arguments cycles = pure (.usage error) := by
  rw [run, h]

private theorem run_of_refused {m : Type → Type} [Monad m] [LawfulMonad m] (others : Surroundings m)
    {address : Address} {failure : Failure} (h : Command.parse arguments = .watch address)
    (hsetting : Setting.ofAddress address.text = .error failure) :
    run others arguments cycles = pure (.exit (Exit.ofFailure failure)) := by
  simp only [run, h, watchAddress, hsetting, pure_bind]

private theorem status_of_run_watch {address : Address}
    (h : Command.parse arguments = .watch address)
    (hsetting : Setting.ofAddress address.text = .ok setting) :
    (run surroundings arguments cycles world).1.status? ≠ some 2 := by
  rw [run, h]
  simp only [bind_run, watchAddress, hsetting]
  cases hexit : (watch surroundings setting cycles world).1.exit with
  | none => exact nofun
  | some exit =>
    exact fun hstatus =>
      status_of_watch surroundings (Setting.isFixed_base hsetting) hexit (Option.some.inj hstatus)

/-- Whether a run ends with status 2 is decided by its arguments, and such a run has no effects. -/
theorem run_eq_pure (h : (run surroundings arguments cycles world).1.status? = some 2) :
    ∃ e : End, ∀ {m : Type → Type} [Monad m] [LawfulMonad m] (others : Surroundings m) (n : Nat),
      run others arguments n = pure e := by
  cases hcommand : Command.parse arguments with
  | usage error => exact ⟨_, fun others n => run_of_usage others hcommand⟩
  | watch address =>
    cases hsetting : Setting.ofAddress address.text with
    | error failure => exact ⟨_, fun others n => run_of_refused others hcommand hsetting⟩
    | ok setting => exact absurd h (status_of_run_watch surroundings hcommand hsetting)
  | _ =>
    -- What is left are the commands that print a text and end well.
    rw [run, hcommand] at h
    cases h

/-- One value that makes no setting ends the program with status 2. -/
theorem status_of_rejects (honly : Command.IsOnly arguments text) (h : Rejects text) :
    (run surroundings arguments cycles world).1.status? = some 2 := by
  have hparse := Command.parse_of_isOnly honly
  rw [Command.ofAddress] at hparse
  obtain ⟨cause, hcause⟩ | ⟨address, failure, haddress, hsetting⟩ := h
  · rw [hcause] at hparse
    rw [run_of_usage surroundings hparse]
    rfl
  · rw [haddress] at hparse
    rw [run_of_refused surroundings hparse hsetting]
    exact congrArg some (isSetting_of_ofAddress hsetting)

/-- A setting is good for a whole run: its base makes a service, the service makes a URL for every
place, and nothing that is done with it fails of the setting, whatever the servers answer. -/
structure Usable (setting : Setting) (api : Api) : Prop where
  serves : Api.ofUrl setting.base setting.timeout = .ok api
  endpoint : ∀ names, api.endpoint names =
    { setting.base with path := .segments (api.segmentsOf names) }
  calls : ∀ {σ : Type} (exchange : Http.Exchange (StateM σ)) (plugin network : String) (world : σ)
    (base : String),
    (api.listNetworks exchange world).1.result ≠ .error (.unusableBase base) ∧
      (api.networkTree exchange world).1.result ≠ .error (.unusableBase base) ∧
      (api.networkStats exchange plugin network world).1.result ≠ .error (.unusableBase base)
  connects : ∀ {σ : Type} (exchange : Http.Exchange (StateM σ)) (world : σ) (failure : Failure),
    (Monitor.connect exchange setting world).1.result = .error failure → failure.IsForeign
  cycles : ∀ {σ : Type} (exchange : Http.Exchange (StateM σ)) (s : Session σ),
    s.source = api.source exchange → ∀ (n : Nat) (failure : Failure),
      (s.after n).reply.result = .error failure → failure.IsForeign
  ends : ∀ {σ : Type} (surroundings : Surroundings (StateM σ)) (cycles : Nat) (world : σ)
    (exit : Exit), (watch surroundings setting cycles world).1.exit = some exit → exit.status ≠ 2

private theorem usable_of_isFixed (hbase : setting.base.path.isFixed = false) :
    Usable setting ⟨setting.base, setting.timeout, hbase⟩ where
  serves := Api.ofUrl_eq_ok hbase setting.timeout
  endpoint names := Api.endpoint_eq _ names
  calls exchange plugin network world base :=
    ⟨(Api.sound_listNetworks _ exchange world).based base,
      (Api.sound_networkTree _ exchange world).based base,
      (Api.sound_networkStats _ exchange plugin network world).based base⟩
  connects exchange world failure hfailure := by
    obtain ⟨other, hforeign, hother⟩ | ⟨monitor, hok⟩ := connect_cases exchange hbase world
    · obtain rfl : other = failure := Except.error.inj (hother.symm.trans hfailure)
      exact hforeign
    · cases hok.symm.trans hfailure
  cycles exchange s hsource n failure hreply := by
    refine Session.failure_of_reply ?_ hreply
    rw [Session.after_source, hsource]
    exact Api.always_foreign _ exchange
  ends surroundings cycles world exit hexit := status_of_watch surroundings hbase hexit

/-- A program that ends with status 2 has asked no server for anything and written nothing. Every
run on one value that makes no setting does end so. And a setting that was made is good for the
whole run, so that no request of any cycle can be the cause of this status. -/
theorem traffic_of_usage :
    (∀ {σ : Type} (surroundings : Surroundings (StateM σ)) (arguments : List String) (cycles : Nat)
      (world : σ), let out := run surroundings.recorded arguments cycles (world, {})
      out.1.status? = some 2 → out.2 = (world, {})) ∧
    (∀ {σ : Type} (surroundings : Surroundings (StateM σ)) (arguments : List String) (text : String)
      (cycles : Nat) (world : σ), Command.IsOnly arguments text → Rejects text →
        (run surroundings arguments cycles world).1.status? = some 2) ∧
    ∀ text setting, Setting.ofAddress text = .ok setting → ∃ api, Usable setting api := by
  refine ⟨?_, ?_, ?_⟩
  · intro σ surroundings arguments cycles world out hstatus
    obtain ⟨e, hpure⟩ := run_eq_pure surroundings.recorded hstatus
    have hout : out = (e, world, {}) := congrFun (hpure surroundings.recorded cycles) (world, {})
    rw [hout]
  · exact fun surroundings arguments text cycles world honly hrejects =>
      status_of_rejects surroundings honly hrejects
  · exact fun text setting hsetting => ⟨_, usable_of_isFixed (Setting.isFixed_base hsetting)⟩

/-- Surroundings in which no server answers. -/
def unanswered : Surroundings (StateM Unit) where
  exchange := fun _ => pure .silent
  write := fun _ => pure true
  colour := false
  tell := fun _ => pure ()
  pause := fun _ => pure ()

/-- A bracket that is not closed makes an address, but no URL. With the bracket closed there is a
service to watch. -/
theorem traffic_of_openBracket :
    Command.IsOnly ["[::1:80"] "[::1:80" ∧ Rejects "[::1:80" ∧
      (run unanswered.recorded ["[::1:80"] 1 ((), {})).1.status? = some 2 ∧
      (run unanswered.recorded ["[::1:80"] 1 ((), {})).2 = ((), {}) ∧
      ∃ setting api, Setting.ofAddress "[::1]:80" = .ok setting ∧ Usable setting api := by
  obtain ⟨huntouched, hends, husable⟩ := traffic_of_usage
  have honly : Command.IsOnly ["[::1:80"] "[::1:80" := .inr ⟨rfl, .inl rfl⟩
  have hrejects : Rejects "[::1:80" := by
    refine .inr ⟨⟨"[::1", 80⟩,
      .setting "invalid address '[::1:80': invalid IPv6 address", ?_, ?_⟩
    · decide +kernel
    · decide +kernel
  have hstatus := hends unanswered.recorded ["[::1:80"] "[::1:80" 1 ((), {}) honly hrejects
  refine ⟨honly, hrejects, hstatus, huntouched unanswered ["[::1:80"] 1 () hstatus, ?_⟩
  have hmade : (Setting.ofAddress "[::1]:80").isOk = true := by decide +kernel
  cases hsetting : Setting.ofAddress "[::1]:80" with
  | error failure =>
    rw [hsetting] at hmade
    cases hmade
  | ok setting =>
    obtain ⟨api, hapi⟩ := husable _ _ hsetting
    exact ⟨setting, api, rfl, hapi⟩

end Program

end PollAudit
