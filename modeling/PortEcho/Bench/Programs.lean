import PortEcho.Bench.Pace
import PortEcho.CommandLine.Probe
import PortEcho.CommandLine.Serve
import PortEcho.Network

/-!
The two programs on the bench: started with arguments on one host, with a few other sockets on it.
-/

namespace PortEcho.Bench

open PortEcho.CommandLine

/-- Turns after which a program is taken to go on for ever. -/
def enough : Nat := 1000

/-- The responder on a host where the ports in `used` are taken. -/
def serveAlone (network : Network) (used : List UInt16) (free : UInt16) (args : List String) :
    Run :=
  let w : Surroundings :=
    { bind := fun _ => network.bind used free
      send := fun _ => network.send (.v4 .wildcard 0) }
  serve w enough (Serve.program :: args)

/-- How a prober's socket on this host sends: in the family of the address it is bound to. -/
def sendAsBound (network : Network) (j : Journal) : Endpoint → Bytes → Except Fault Nat :=
  match j.getLast? with
  | some (.bound address _) => network.send address
  | _ => network.send (.v4 .wildcard 0)

/-- The prober on a host where nothing answers. -/
def probeAlone (network : Network) (free : UInt16) (args : List String) : Run :=
  let w : Surroundings :=
    { bind := fun _ => network.bind [] free
      send := sendAsBound network }
  probe w enough (Probe.program :: args)

/-- The last probe that went out, if it reached `peer`. -/
def latestFor (network : Network) (peer : Endpoint) (j : Journal) : Option Bytes :=
  match j.departures.getLast? with
  | some (dest, bytes) => if network.destination? dest = some peer then some bytes else none
  | none => none

/-- Turns in which a prober with these arguments makes so many lines. -/
def turnsFor (lines : Nat) (args : List String) : Nat :=
  match Prober.Settings.ofArgs args with
  | .ok { count, interval := some secs, .. } =>
    (lines + 2) * Prober.Rounds.turnsEach count.toNat (Probe.millis secs)
  | _ => 0

/-- The prober on a host where `peer` sends the first bytes of each probe back. It is asked to stop
after some lines, if `signal` says so. -/
def probeEchoed (network : Network) (free : UInt16) (peer : Endpoint) (signal : Option Nat)
    (args : List String) : Run :=
  let pace : Pace := { wait := Prober.defaultTimeout }
  let args := Probe.program :: args
  let w : Surroundings :=
    { bind := fun _ => network.bind [] free
      send := sendAsBound network
      clock := pace.elapsed
      arrivals := fun j =>
        match latestFor network peer j with
        | some bytes => [.ok ⟨peer, Probe.reply bytes⟩]
        | none => []
      stop := fun j => signal.any (· ≤ j.lines.length) }
  probe w (turnsFor (signal.getD 0) args) args

/-- The probes that reached `peer`. -/
def probesFor (network : Network) (peer : Endpoint) (r : Run) : List Bytes :=
  r.journal.departures.filterMap fun (dest, bytes) =>
    if network.destination? dest = some peer then some bytes else none

/-- The responder on a host where `client` sends one datagram after the other, each once the one
before is handled; then it is asked to stop. -/
def serveClient (network : Network) (free : UInt16) (client : Endpoint) (datagrams : List Bytes)
    (args : List String) : Except Fault Run :=
  match network.refusal client (.v4 .loopback free), datagrams with
  | some e, _ :: _ => .error e
  | _, _ =>
    let w : Surroundings :=
      { bind := fun _ => network.bind [] free
        send := fun _ => network.send (.v4 .wildcard 0)
        arrivals := fun j =>
          match j with
          | .checked false :: _ =>
            match datagrams[j.datagrams.length]? with
            | some bytes => [.ok ⟨client, bytes⟩]
            | none => []
          | _ => []
        stop := fun j => datagrams.length ≤ j.datagrams.length }
    .ok (serve w (enough + 8 * datagrams.length) (Serve.program :: args))

end PortEcho.Bench
