import PollAudit.Http.Message
import PollAudit.Program
import Std.Async.DNS
import Std.Async.TCP
import Std.Async.Timer

open Std.Async

namespace PollAudit.Main

/-- The places on the net that a host stands for. -/
def places (host : Url.Host) (port : UInt16) : Async (List Std.Net.SocketAddress) := do
  match host with
  | .ipv4 n =>
    let byte (k : Nat) : UInt8 := UInt8.ofNat (n >>> (8 * k))
    pure [.v4 ⟨.ofParts (byte 3) (byte 2) (byte 1) (byte 0), port⟩]
  | .ipv6 pieces =>
    let piece (k : Nat) : UInt16 := UInt16.ofNat (pieces.getD k 0)
    pure
      [.v6 ⟨.ofParts (piece 0) (piece 1) (piece 2) (piece 3) (piece 4) (piece 5) (piece 6) (piece 7),
        port⟩]
  | .name text =>
    let found ← DNS.getAddrInfo text ""
    pure
      (found.toList.map fun address =>
        match address with
        | .v4 a => .v4 ⟨a, port⟩
        | .v6 a => .v6 ⟨a, port⟩)

/-- Connects to the first place that lets it. -/
def connect : List Std.Net.SocketAddress → Async (Option TCP.Socket.Client)
  | [] => pure none
  | place :: rest => do
    try
      let client ← TCP.Socket.Client.mk
      client.connect place
      pure (some client)
    catch _ => connect rest

/-- What has come from the other side, and when the head of the response was complete. -/
structure Received where
  bytes : ByteArray := .empty
  headAt : Option Nat := none

/-- Takes some more bytes that came at a time. -/
def Received.add (received : Received) (more : ByteArray) (now : Nat) : Received :=
  let bytes := received.bytes ++ more
  let headAt := if (Http.Message.readHead? bytes.toList).isSome then some now else none
  { bytes, headAt := received.headAt.orElse fun _ => headAt }

/-- The milliseconds from a time until the head was there. -/
def Received.took (received : Received) (start : Nat) : Nat := received.headAt.getD start - start

/-- Receives until the response is whole, the other side closes the connection or it breaks. -/
partial def receive (client : TCP.Socket.Client) (received : IO.Ref Received) : Async Unit := do
  if Http.Message.isWhole (← received.get).bytes.toList then return
  let more ← try client.recv? 65536 catch _ => pure none
  match more with
  | none => pure ()
  | some bytes =>
    let now ← IO.monoMsNow
    received.modify (·.add bytes now)
    receive client received

/-- Sends a request and reads the answer. -/
def exchangeOver (request : Http.Request) (start : Nat) (received : IO.Ref Received) :
    Async Http.Answer := do
  match request.url.host? with
  | none => pure .unreachable
  | some host =>
    let port := (request.url.port?.orElse fun _ => request.url.kind.defaultPort).getD 80
    let client ← try connect (← places host port) catch _ => pure none
    match client with
    | none => pure .unreachable
    | some client =>
      try
        client.send request.text.toUTF8
        receive client received
        let whole ← received.get
        pure (Http.Message.answer whole.bytes.toList (whole.took start))
      catch _ => pure .closed

/-- Waits for an answer no longer than the request allows. The body of a redirect is waited for
too. -/
def exchange : Http.Exchange IO := fun request => do
  let start ← IO.monoMsNow
  let received ← IO.mkRef {}
  Async.block
    (Async.race (exchangeOver request start received) do
      sleep (.ofNat request.timeout)
      let part ← received.get
      pure (Http.Message.lateAnswer part.bytes.toList (part.took start)))

/-- Writes a text to the standard output and says whether that worked. -/
def put (text : String) : IO Bool := do
  try
    let out ← IO.getStdout
    out.putStr text
    out.flush
    pure true
  catch _ => pure false

/-- The line of a diagnostic. -/
def line (event : Event) : String :=
  let shown (datum : Datum) : String :=
    match datum with
    | .number n => toString n
    | .text s => s
  event.fields.foldl (fun text field => text ++ s!" {field.1}={shown field.2}")
    s!"{event.level.name} {event.message}"

/-- The net, the standard output and the clock. Warnings go to the standard error. -/
def surroundings (colour : Bool) : Program.Surroundings IO where
  exchange := exchange
  write := put
  colour := colour
  tell := fun events => do
    for event in Event.atLeast .warn events do
      IO.eprintln (line event)
  pause := fun milliseconds => IO.sleep (UInt32.ofNat milliseconds)

/-- What the user is told about the end of the program. -/
def explain : Program.End → IO Unit
  | .done | .running => pure ()
  | .usage error => IO.eprintln s!"error: {error.message}"
  | .exit e => do
    IO.eprintln s!"{e.code}: {e.message}"
    match e.help with
    | none => pure ()
    | some help => IO.eprintln s!"help: {help}"

/-- The cycles after which a run would end by itself, more than there will ever be. -/
def allCycles : Nat := Count.top.toNat

end PollAudit.Main

open PollAudit in
/-- Watches the service named by the arguments until that fails or is interrupted. -/
def main (arguments : List String) : IO UInt32 := do
  let colour := (← (← IO.getStdout).isTty) && (← IO.getEnv "NO_COLOR").isNone
  let ended ← Program.run (Main.surroundings colour) arguments Main.allCycles
  Main.explain ended
  pure (UInt32.ofNat (ended.status?.getD 0))
