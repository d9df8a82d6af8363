import PortEcho.CommandLine.Probe
import PortEcho.CommandLine.Serve
import PortEcho.Recall
import Std.Async.DNS
import Std.Async.Signal
import Std.Async.Timer
import Std.Async.UDP
import Std.Sync.CancellationToken
import Std.Time.DateTime.Timestamp

/-!
The two programs on a real machine: `uping` serves a port, `uping-probe` probes one.

The programs are stepped against recalled surroundings. Each call that a step comes to is made on
the machine's socket, streams, clock or signals, and goes on record with its answer; then the step
is taken again. What the programs do is decided in the library.

The first signal to stop is the request that the programs look for. One more ends a program at
once, whatever it waits for.
-/

namespace PortEcho

open Std.Async

/-- The machine's part in a run. -/
structure Machine where
  socket : IO.Ref (Option UDP.Socket)
  /-- A signal to stop has come. -/
  stop : IO.Ref Bool
  /-- Cancelled when another one has come after that. -/
  quit : Std.CancellationToken
  /-- When the last datagram was sent, in nanoseconds. -/
  sentAt : IO.Ref Nat
  /-- How long it takes from sending until nothing more is waited for, in milliseconds. -/
  patience : Nat

namespace Machine

def new (patience : Nat) : IO Machine := do
  let quit ← Std.CancellationToken.new
  return ⟨← IO.mkRef none, ← IO.mkRef false, quit, ← IO.mkRef 0, patience⟩

/-- The system's error number; the event loop gives the negative of it. -/
def numberOf (code : UInt32) : Nat := (if code < 0x80000000 then code else 0 - code).toNat

def faultOf : IO.Error → Fault
  | .otherError code _ | .resourceBusy code _ | .resourceVanished code _
  | .unsupportedOperation code _ | .hardwareFault code _ | .unsatisfiedConstraints code _
  | .illegalOperation code _ | .protocolError code _ | .timeExpired code _
  | .alreadyExists _ code _ | .interrupted _ code _ | .noFileOrDirectory _ code _
  | .invalidArgument _ code _ | .permissionDenied _ code _ | .resourceExhausted _ code _
  | .inappropriateType _ code _ | .noSuchThing _ code _ => .system (numberOf code)
  | .unexpectedEof => .bare .unexpectedEof
  | .userError text => .custom .other text

def attempt {α : Type} (x : IO α) : IO (Except Fault α) := do
  try return .ok (← x) catch e => return .error (faultOf e)

def toSocketAddress : Endpoint → Std.Net.SocketAddress
  | .v4 ip port => .v4 ⟨⟨#v[ip.a, ip.b, ip.c, ip.d]⟩, port⟩
  | .v6 ip port _ _ => .v6 ⟨⟨ip.segments⟩, port⟩

def ofIPAddr : Std.Net.IPAddr → IPAddress
  | .v4 ip => .v4 ⟨ip.octets[0], ip.octets[1], ip.octets[2], ip.octets[3]⟩
  | .v6 ip => .v6 ⟨ip.segments⟩

def ofSocketAddress : Std.Net.SocketAddress → Endpoint
  | .v4 a => .ofHost (ofIPAddr (.v4 a.addr)) a.port
  | .v6 a => .ofHost (ofIPAddr (.v6 a.addr)) a.port

def bind (m : Machine) (address : Endpoint) : IO Endpoint := do
  let socket ← UDP.Socket.mk
  socket.bind (toSocketAddress address)
  m.socket.set (some socket)
  return ofSocketAddress (← socket.getSockName)

/-- Wait for a datagram, no longer than some milliseconds. -/
def receive (m : Machine) (millis : Nat) : IO (Option Receipt) := do
  let some socket ← m.socket.get | return none
  let given ← attempt <| Async.block do
    Selectable.one #[
      .case (socket.recvSelector 65535) fun (bytes, source) => return source.map (bytes, ·),
      .case (← Selector.sleep ⟨max millis 1⟩) fun _ => return none,
      .case m.quit.selector fun _ => return none]
  match given with
  | .ok (some (bytes, source)) =>
    return some (.ok ⟨ofSocketAddress source, bytes.data.toList⟩)
  | .ok none => return none
  | .error e => return some (.error e)

def send (m : Machine) (dest : Endpoint) (bytes : Bytes) : IO Nat := do
  let some socket ← m.socket.get | return 0
  m.sentAt.set (← IO.monoNanosNow)
  Async.block (socket.send ⟨bytes.toArray⟩ (some (toSocketAddress dest)))
  return bytes.length

def sleep (m : Machine) (millis : Nat) : IO Unit := Async.block do
  Selectable.one #[
    .case (← Selector.sleep ⟨millis⟩) fun _ => return (),
    .case m.quit.selector fun _ => return ()]

/-- Milliseconds for which a reply is still waited for. -/
def remaining (m : Machine) : IO Nat := do
  let waited := ((← IO.monoNanosNow) - (← m.sentAt.get)) / 1000000
  return m.patience - waited

/-- Make a call that is planned. What comes in is returned; for any other call, the call with its
true answer. -/
def make (m : Machine) : Act → IO (Act ⊕ Receipt)
  | .bound address _ => return .inl (.bound address (← attempt (m.bind address)))
  | .checked _ => return .inl (.checked (← m.stop.get))
  | .timed _ => return .inl (.timed (← IO.monoMsNow))
  | .polled (.ok false) => do
    match ← m.receive 250 with
    | some r => return .inr r
    | none => return .inl (.polled (.ok false))
  | .received (.error e) => do
    match ← m.receive (← m.remaining) with
    | some r => return .inr r
    | none => return .inl (.received (.error e))
  | .wrote line _ => do
    let given ← attempt do (← IO.getStdout).putStr line
    return .inl (.wrote line (match given with | .ok _ => none | .error e => some e))
  | .flushed _ => do
    let given ← attempt do (← IO.getStdout).flush
    return .inl (.flushed (match given with | .ok _ => none | .error e => some e))
  | .sent dest bytes _ => return .inl (.sent dest bytes (← attempt (m.send dest bytes)))
  | .slept millis => do
    m.sleep millis
    return .inl (.slept millis)
  | .noted n => do
    if n.level = .warn then IO.eprintln n.record
    return .inl (.noted n)
  | a => return .inl a

/-- Take a step: make the calls it comes to, one after the other, until it needs no more. -/
partial def take {σ : Type} (m : Machine) (step : Surroundings → σ)
    (journal : σ → Journal) (r : Recall) : IO σ := do
  if ← m.quit.isCancelled then throw (.userError "a second signal has come")
  let secs := (← Std.Time.Timestamp.now).toSecondsSinceUnixEpoch.val
  let r := { r with time := .ofSecond secs, now := ← IO.monoMsNow }
  let next := step r.surroundings
  match r.next? (journal next) with
  | none => return next
  | some a =>
    match ← m.make a with
    | .inl a => m.take step journal (r.enter a)
    | .inr receipt =>
      let roundTrip := (← IO.monoNanosNow) - (← m.sentAt.get)
      m.take step journal { r with arrivals := r.arrivals ++ [receipt], roundTrip }

/-- Leave what a run has left: its text on the error output, and its status. -/
def leave (r : CommandLine.Run) : IO UInt32 := do
  IO.eprint r.errors
  return UInt32.ofNat (r.status.getD 0)

/-- A signal to stop is the request to do so, or it quits a program that has been requested to. -/
def heed (m : Machine) : BaseIO Unit := do
  let requested ← m.stop.modifyGet (·, true)
  if requested then m.quit.cancel

/-- Heed a signal whenever it comes. -/
partial def watch (m : Machine) (signal : Signal) : IO Unit := do
  await (← Signal.Waiter.mk signal true)
where
  await (waiter : Signal.Waiter) : IO Unit := do
    let task ← waiter.wait
    discard <| IO.mapTask (fun _ => do m.heed; await waiter) task

/-- The status of a program that runs on the machine until it ends or is quit. -/
def status (m : Machine) (program : IO UInt32) : IO UInt32 := do
  try program catch e => if ← m.quit.isCancelled then return 1 else throw e

partial def serve (m : Machine) (args : List String) : IO UInt32 := do
  m.watch .sigint
  m.watch .sigterm
  let begun ← m.take (CommandLine.Serve.start · args)
    (fun | .ok s => s.journal | .error r => r.journal) {}
  match begun with
  | .error r => leave r
  | .ok s => go m s
where
  go (m : Machine) (s : Responder.Service) : IO UInt32 := do
    let s := { s with station.desk.journal := [] }
    let s ← m.take s.turn (·.journal) {}
    if s.result?.isSome then leave (CommandLine.Serve.ofService s) else go m s

/-- The number of an interface of this machine. -/
def interfaceNumber? (name : String) : IO (Option UInt32) := do
  if name.isEmpty || name.startsWith "." || name.contains '/' then return none
  match ← attempt (IO.FS.readFile ("/sys/class/net/" ++ name ++ "/ifindex")) with
  | .error _ => return none
  | .ok text => return zoneNumber? (text.toList.takeWhile (·.isDigit))

/-- The directory of a prober: what the name servers say of its host, or which interface its host's
zone names. -/
def lookUp (args : List String) : IO Directory := do
  let .ok settings := Prober.Settings.ofArgs args | return .standalone
  let cs := settings.host.toList
  if (IPAddress.ofChars? cs).isSome then return .standalone
  match IPv6.ofZonedChars? cs with
  | some (_, zone) =>
    let number ← match interfaceName? zone with
      | some name => interfaceNumber? name
      | none => pure none
    return { Directory.standalone with interface? := fun _ => number }
  | none =>
    match ← attempt (Async.block (DNS.getAddrInfo settings.host (toString settings.port))) with
    | .error _ => return { Directory.standalone with addresses := fun _ => [] }
    | .ok found =>
      let addresses := found.toList.map ofIPAddr
      return { Directory.standalone with addresses := fun _ => addresses }

partial def probe (m : Machine) (args : List String) : IO UInt32 := do
  let r : Recall := { known := ← lookUp args }
  let begun ← m.take (CommandLine.Probe.start · args)
    (fun | .ok (_, p) => p.journal | .error r => r.journal) r
  match begun with
  | .error r => leave r
  | .ok (settings, p) =>
    match settings.interval with
    | none => survey m settings.count.toNat { prober := p }
    | some secs =>
      m.watch .sigint
      m.watch .sigterm
      rounds m settings.count.toNat (CommandLine.Probe.millis secs) ⟨p, .starting⟩
where
  survey (m : Machine) (left : Nat) (s : Prober.Survey) : IO UInt32 := do
    if left = 0 then leave (CommandLine.Probe.ofSurvey (none, s))
    else
      let s := { s with prober.journal := [] }
      let (broken, s) ← m.take s.next (·.2.prober.journal) {}
      (← IO.getStdout).flush
      if broken.isSome then leave (CommandLine.Probe.ofSurvey (broken, s))
      else survey m (left - 1) s
  rounds (m : Machine) (count interval : Nat) (s : Prober.Rounds) : IO UInt32 := do
    let s := { s with prober.journal := [] }
    let s ← m.take (s.turn · count interval) (·.prober.journal) {}
    if s.result?.isSome then leave (CommandLine.Probe.ofRounds s)
    else rounds m count interval s

end Machine

end PortEcho

/-- The first argument names the program. -/
def main (args : List String) : IO UInt32 := do
  match args with
  | "uping" :: _ =>
    let m ← PortEcho.Machine.new 0
    m.status (m.serve args)
  | "uping-probe" :: _ =>
    let m ← PortEcho.Machine.new PortEcho.Prober.defaultTimeout
    m.status (m.probe args)
  | _ =>
    IO.eprintln PortEcho.Responder.usage
    IO.eprintln PortEcho.Prober.usage
    return 1
