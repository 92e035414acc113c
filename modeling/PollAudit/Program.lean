import PollAudit.Api.Source
import PollAudit.Audit.Run
import PollAudit.CommandLine
import PollAudit.Report.Render
import PollAudit.Setting

namespace PollAudit

namespace Monitor

/-- Lists the networks of the service that a setting names, and fixes those that will be watched.
Gives the service too. -/
def connect {m : Type → Type} [Monad m] (exchange : Http.Exchange m) (setting : Setting) :
    m (Reply (Api × Monitor)) := do
  match Api.ofUrl setting.base setting.timeout with
  | .error error => pure ⟨.error (Failure.ofApi error), []⟩
  | .ok api =>
    let connecting : Event :=
      { level := .info
        message := "connecting to device-management API"
        fields := [("url", .text setting.base.text)] }
    let started ← Monitor.start (api.source exchange) setting.plugin setting.policy
    pure ⟨started.result.map (api, ·), connecting :: started.events⟩

end Monitor

namespace Program

/-- What a run of the program needs: servers to talk to, a standard output, a place for events and
a clock. -/
structure Surroundings (m : Type → Type) where
  exchange : Http.Exchange m
  /-- Writes a text to the standard output and says whether all of it went out. -/
  write : String → m Bool
  /-- Whether reports are painted. -/
  colour : Bool
  tell : List Event → m Unit
  /-- Waits for a number of whole milliseconds. -/
  pause : Nat → m Unit

/-- Reports go to the standard output. -/
def Surroundings.host {m : Type → Type} [Monad m] (surroundings : Surroundings m) : Host m where
  report := fun report => do
    if ← surroundings.write (report.block surroundings.colour) then pure (.ok ())
    else pure (.error .output)
  tell := surroundings.tell
  pause := surroundings.pause

/-- Where a run stands when it has ended or come to the last of its cycles. -/
structure Standing where
  monitor : Option Monitor := none
  exit : Option Exit := none

variable {m : Type → Type} [Monad m]

/-- Watches the service of a setting for at most `cycles` cycles. -/
def watch (surroundings : Surroundings m) (setting : Setting) (cycles : Nat) : m Standing := do
  surroundings.tell
    [{ level := .debug
       message := "starting monitor"
       fields := [("url", .text setting.base.text), ("plugin", .text setting.plugin)] }]
  let connected ← Monitor.connect surroundings.exchange setting
  surroundings.tell connected.events
  match connected.result with
  | .error failure => pure { exit := some (Exit.ofFailure failure) }
  | .ok (api, monitor) =>
    let (exit, monitor) ←
      monitor.run (api.source surroundings.exchange) surroundings.host setting.interval
        cycles
    pure { monitor := some monitor, exit := exit }

/-- Watches the service at an address. -/
def watchAddress (surroundings : Surroundings m) (address : Address) (cycles : Nat) :
    m Standing :=
  match Setting.ofAddress address.text with
  | .error failure => pure { exit := some (Exit.ofFailure failure) }
  | .ok setting => watch surroundings setting cycles

/-- How the program ends. -/
inductive End
  /-- It did what was asked for. -/
  | done
  /-- Its arguments were no command. -/
  | usage (error : UsageError)
  /-- It had to give up. -/
  | exit (exit : Exit)
  /-- It has not ended after the cycles it was watched for. -/
  | running
deriving DecidableEq, Repr

/-- The exit status, none while the program runs. -/
def End.status? : End → Option Nat
  | done => some 0
  | usage _ => some 2
  | exit e => some e.status
  | running => none

/-- The whole program, for at most `cycles` cycles. -/
def run (surroundings : Surroundings m) (arguments : List String) (cycles : Nat) : m End := do
  match Command.parse arguments with
  | .watch address =>
    match (← watchAddress surroundings address cycles).exit with
    | none => pure .running
    | some exit => pure (.exit exit)
  | .usage error => pure (.usage error)
  | command => do
    let _ ← surroundings.write command.output
    pure .done

end Program

end PollAudit
