import PortEcho.Bench.Halt
import PortEcho.Bench.Sink
import PortEcho.Network
import PortEcho.Responder.Service

/-!
A responder on the bench: a script of datagrams, polls and looks at what came back, played on one
host between a responder and its clients.

A reply to the responder's own port comes back in at once. A script that wants a client to send
what the network refuses cannot be played, nor one with a datagram from another host.
-/

namespace PortEcho.Bench

open PortEcho.Responder

/-- Where a responder and its clients are set up. -/
structure ResponderSite where
  network : Network
  /-- The port that the responder is given. -/
  port : UInt16
  /-- The ports of the clients, all on the loopback address. -/
  clients : List UInt16
  sink : Sink := {}

inductive Sender
  | client (index : Nat)
  | endpoint (e : Endpoint)

inductive ResponderStep
  /-- The responder handles this datagram, wherever it came from. -/
  | handle (bytes : Bytes) (sender : Sender)
  | send (client : Nat) (bytes : Bytes) (times : Nat)
  /-- Poll until so many datagrams are handled. -/
  | poll (expected : Nat)
  /-- Take what has come back to a client. -/
  | collect (client : Nat)
  /-- Try to open a second responder on the port. -/
  | rival
  | run (halt : Halt)

/-- What a step shows: the lines and notices it brought, and the counters after it. -/
structure Shown where
  lines : List String
  notices : List Notice
  tally : Tally

inductive ResponderAnswer
  | handled (shown : Shown) (fault : Option Fault)
  | sent (times : Nat)
  | polled (count : Nat) (shown : Shown) (fault : Option Fault)
  | collected (replies : List Bytes)
  | rivalled (error : Option ListenError)
  | ran (shown : Shown) (result : Option (Except Fault Tally))

/-- A script half played: the responder, and the replies that the clients have not taken yet. -/
structure Scene where
  station : Station
  mail : List (Endpoint × Bytes) := []

namespace ResponderSite

def own (b : ResponderSite) : Endpoint := .v4 .wildcard b.port

def client (b : ResponderSite) (index : Nat) : Endpoint := .v4 .loopback (b.clients.getD index 0)

def sender (b : ResponderSite) : Sender → Endpoint
  | .client index => b.client index
  | .endpoint e => e

/-- Why no datagram can come from here, if none can. -/
def foreign? : Endpoint → Option Fault
  | .v4 ip _ => if ip.a = 127 then none else some (.custom .invalidInput "from must be loopback")
  | .v6 .. => none

/-- What an act sends to the responder itself. -/
def returns (b : ResponderSite) (a : Act) : Option Receipt := do
  let (dest, bytes) ← a.departure?
  let place ← b.network.destination? dest
  if place.port = b.port then some (.ok ⟨.v4 .loopback b.port, bytes⟩) else none

def surroundings (b : ResponderSite) : Surroundings where
  bind := fun _ => b.network.bind [] b.port
  arrivals := fun j => (j.head?.bind b.returns).toList
  write := b.sink.write
  flush := b.sink.flush
  send := fun _ => b.network.send b.own

/-- What the journal of `s` has more than that of `before`. -/
def news (before s : Station) : Journal := s.journal.take (s.journal.length - before.journal.length)

def shown (before s : Station) : Shown where
  lines := (news before s).lines
  notices := (news before s).notices
  tally := s.desk.tally

/-- The scene after the responder has moved on, with its replies delivered. -/
def after (b : ResponderSite) (s : Scene) (station : Station) : Scene where
  station := station
  mail := s.mail ++ (news s.station station).departures.filterMap fun (dest, bytes) =>
    (b.network.destination? dest).map (·, bytes)

/-- The station at the end of the drain under way, if so many calls of receive get there. -/
def drain (w : Surroundings) : Nat → Station → Station
  | 0, s => s
  | fuel + 1, s =>
    match s.phase with
    | .idle => s
    | .draining .. => drain w fuel ((Service.letIn w s).step w .receive)

/-- Calls of receive that a drain takes at most, if it ends: replies that come back for ever are
ended only by the sink. -/
def receives (b : ResponderSite) (s : Station) : Nat :=
  s.queue.length + 1 + b.sink.failLine.getD 0 + b.sink.failFlush.getD 0

/-- Polls until `wanted` more datagrams are handled, or one finds none, or one fails. -/
def pollFor (b : ResponderSite) : Nat → Nat → Station → Nat × Option Fault × Station
  | 0, _, s => (0, none, s)
  | fuel + 1, wanted, s =>
    let s := drain b.surroundings (b.receives s) (s.step b.surroundings .poll)
    match s.outcome with
    | some (.error e) => (0, some e, s)
    | some (.ok n) =>
      if n = 0 ∨ wanted ≤ n then (n, none, s)
      else
        let (more, fault, s) := b.pollFor fuel (wanted - n) s
        (n + more, fault, s)
    | none => (0, none, s)

/-- The length of a poll that finds nothing, in milliseconds. -/
def patience : Nat := 250

/-- The time that idle polls have taken. -/
def elapsed (j : Journal) : Nat :=
  patience * j.countP fun
    | .polled (.ok false) => true
    | _ => false

/-- The surroundings of a run that begins with the journal `j` and is asked to stop by `halt`. -/
def halting (b : ResponderSite) (halt : Halt) (j : Journal) : Surroundings :=
  { b.surroundings with
    clock := fun i => elapsed i - elapsed j
    stop := fun i => halt.due (i.lines.length - j.lines.length) (elapsed i - elapsed j) }

/-- Turns that a run takes at most, if it ends. -/
def turns (b : ResponderSite) (halt : Halt) (s : Station) : Nat :=
  2 * b.receives s + 6 + 2 * (halt.afterMillis.getD 0 / patience + 2)

/-- Play one step of a script. A step that the site cannot set up faults the whole script. -/
def play (b : ResponderSite) (s : Scene) : ResponderStep → Except Fault (Scene × ResponderAnswer)
  | .handle bytes sender =>
    match foreign? (b.sender sender) with
    | some e => .error e
    | none =>
      let (fault, desk) := s.station.desk.handle b.surroundings ⟨b.sender sender, bytes⟩
      let station := Service.letIn b.surroundings { s.station with desk }
      .ok (b.after s station, .handled (shown s.station station) fault)
  | .send client bytes times =>
    match b.network.refusal (b.client client) (.v4 .loopback b.port) with
    | some e => if times = 0 then .ok (s, .sent times) else .error e
    | none =>
      let letters := List.replicate times (.ok ⟨b.client client, bytes⟩)
      .ok ({ s with station := s.station.letIn letters }, .sent times)
  | .poll expected =>
    let (count, fault, station) := b.pollFor (expected + 1) expected s.station
    .ok (b.after s station, .polled count (shown s.station station) fault)
  | .collect client =>
    let (mine, others) := s.mail.partition (·.1 = b.client client)
    .ok ({ s with mail := others }, .collected (mine.map (·.2)))
  | .rival =>
    let w := { b.surroundings with bind := fun _ => b.network.bind [b.port] b.port }
    match Station.listen w ⟨b.port⟩ with
    | (.error e, _) => .ok (s, .rivalled (some e))
    | (.ok _, _) => .ok (s, .rivalled none)
  | .run halt =>
    let w := b.halting halt s.station.journal
    let service := Service.run w (b.turns halt s.station) ⟨s.station, .checking⟩
    .ok (b.after s service.station, .ran (shown s.station service.station) service.result?)

/-- Play the steps in order, each on the scene the one before it left. -/
def playAll (b : ResponderSite) :
    Scene → List ResponderStep → Except Fault (Scene × List ResponderAnswer)
  | s, [] => .ok (s, [])
  | s, step :: steps => do
    let (s, answer) ← b.play s step
    let (s, answers) ← b.playAll s steps
    return (s, answer :: answers)

/-- Play a whole script: the station as it was opened, the scene at the end, and all answers. -/
def perform (b : ResponderSite) (steps : List ResponderStep) :
    Except Fault (Station × Scene × List ResponderAnswer) := do
  let (_, station) := Station.listen b.surroundings ⟨0⟩
  let (scene, answers) ← b.playAll { station } steps
  return (station, scene, answers)

end ResponderSite

end PortEcho.Bench
