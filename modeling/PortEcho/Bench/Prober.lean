import PortEcho.Bench.Halt
import PortEcho.Bench.Pace
import PortEcho.Bench.Sink
import PortEcho.Network
import PortEcho.Prober.Rounds

/-!
A prober on the bench: letters are put on its socket from chosen corners, then it pings, alone or
in rounds.

A bench whose sockets cannot be bound, or whose letters the network refuses, cannot be used.
-/

namespace PortEcho.Bench

open PortEcho.Prober

/-- What the prober is aimed at. -/
inductive Aim
  | peer
  /-- The peer's port on the wildcard address. -/
  | wildcard
  /-- Port zero of the peer's host. -/
  | portZero
  /-- A peer of the sixth version. -/
  | peer6
  deriving DecidableEq, Repr

/-- Where a letter comes from: the peer, its port on another address, or another port. -/
inductive Corner
  | peer
  | alias
  | other
  deriving DecidableEq, Repr

inductive Content
  | raw (bytes : Bytes)
  /-- The first `size` bytes of the probe with this number, or with the number that is next. -/
  | probe (number : Option UInt16) (size : Nat)

structure Letter where
  corner : Corner := .peer
  content : Content
  /-- The place of a byte that is inverted. -/
  flip : Option Nat := none
  append : Bytes := []

/-- The bytes of a letter, when the probe numbered `next` is the next to be sent. -/
def Letter.bytes (l : Letter) (next : UInt16) : Bytes :=
  let bytes := match l.content with
    | .raw bytes => bytes
    | .probe number size => (Probe.build (number.getD next)).take size
  let bytes := match l.flip with
    | some i => bytes.modify i (· ^^^ 0xff)
    | none => bytes
  bytes ++ l.append

/-- Why a bench is of no use. -/
inductive Failure
  | setup (fault : Fault)
  | letter (fault : Fault)

/-- Where a prober and the sockets around it are set up. -/
structure ProberSite where
  network : Network
  ownPort : UInt16
  peerPort : UInt16
  otherPort : UInt16
  aim : Aim
  timeout : Nat
  start : UInt16

namespace ProberSite

/-- An endpoint of this host, in the family of the prober. -/
def here (b : ProberSite) (port : UInt16) : Endpoint :=
  match b.aim with
  | .peer6 => .v6 .loopback port 0 0
  | _ => .v4 .loopback port

def own (b : ProberSite) : Endpoint := b.here b.ownPort

def corner (b : ProberSite) : Corner → Endpoint
  | .peer => b.here b.peerPort
  | .alias => .v4 ⟨127, 0, 0, 2⟩ b.peerPort
  | .other => b.here b.otherPort

def target (b : ProberSite) : Endpoint :=
  match b.aim with
  | .peer | .peer6 => b.here b.peerPort
  | .wildcard => .v4 .wildcard b.peerPort
  | .portZero => .v4 .loopback 0

def surroundings (b : ProberSite) : Surroundings where
  bind := fun _ => b.network.bind [] b.ownPort
  send := fun _ => b.network.send b.target.unbound

/-- The prober, once the peer's socket is bound. -/
def prober (b : ProberSite) : Except Failure Prober :=
  match b.network.bind [] b.peerPort (b.corner .peer) with
  | .error e => .error (.setup e)
  | .ok _ =>
    match Prober.start b.surroundings b.target b.timeout with
    | (some e, _) => .error (.setup e)
    | (none, p) => .ok { p with next := b.start }

/-- The receipts that letters become on the prober's socket. -/
def post (b : ProberSite) (next : UInt16) (letters : List Letter) : Except Failure (List Receipt) :=
  letters.mapM fun l =>
    match b.network.refusal (b.corner l.corner) b.own with
    | some e => .error (.letter e)
    | none => .ok (.ok ⟨b.corner l.corner, l.bytes next⟩)

/-- The probes that have reached the peer, of those that went out. -/
def reached (b : ProberSite) (j : Journal) : List Bytes :=
  j.departures.filterMap fun (dest, bytes) =>
    if b.network.destination? dest = some (b.corner .peer) then some bytes else none

end ProberSite

inductive ProberStep
  /-- Put letters on the socket, then ping. -/
  | ping (letters : List Letter)
  /-- Ping so many times. -/
  | skip (times : Nat)

inductive ProberAnswer
  | pinged (outcome : Except Breakdown Outcome) (next : UInt16) (notices : List Notice)
      (probes : List Bytes)
  | skipped (last : Option (Except Breakdown Outcome)) (next : UInt16)

namespace ProberSite

/-- So many pings, and how the last one went. -/
def pings (w : Surroundings) : Nat → Option (Except Breakdown Outcome) × Prober →
    Option (Except Breakdown Outcome) × Prober
  | 0, r => r
  | n + 1, (_, p) =>
    let (outcome, p) := p.ping w
    pings w n (some outcome, { p with journal := [] })

def play (b : ProberSite) (p : Prober) : ProberStep → Except Failure (Prober × ProberAnswer)
  | .ping letters => do
    let receipts ← b.post p.next letters
    let (outcome, p) := { p with inbox := p.inbox ++ receipts, journal := [] }.ping b.surroundings
    return (p, .pinged outcome p.next p.journal.notices (b.reached p.journal))
  | .skip times =>
    let (last, p) := pings b.surroundings times (none, p)
    .ok (p, .skipped last p.next)

def playAll (b : ProberSite) : Prober → List ProberStep → Except Failure (List ProberAnswer)
  | _, [] => .ok []
  | p, step :: steps => do
    let (p, answer) ← b.play p step
    return answer :: (← b.playAll p steps)

def perform (b : ProberSite) (steps : List ProberStep) : Except Failure (List ProberAnswer) := do
  b.playAll (← b.prober) steps

end ProberSite

/-- Rounds on the bench: the letters `replies[k]` come in for the ping numbered `k`, as soon as
`k` lines are complete. -/
structure RoundsScript where
  site : ProberSite
  count : Nat
  interval : Nat
  replies : List (List Letter)
  halt : Halt
  sink : Sink := {}

namespace RoundsScript

/-- A ping in vain lasts until its time is up. Rounds without pings pass by looking at the clock. -/
def pace (s : RoundsScript) : Pace where
  wait := s.site.timeout
  look := if s.count = 0 then 1 else 0

/-- The letters for the ping numbered `k`. -/
def lettersFor (s : RoundsScript) (k : Nat) : Except Failure (List Receipt) :=
  s.site.post (s.site.start + UInt16.ofNat k) (s.replies.getD k [])

def surroundings (s : RoundsScript) : Surroundings :=
  { s.site.surroundings with
    write := s.sink.write
    flush := s.sink.flush
    clock := s.pace.elapsed
    stop := fun j => s.halt.due j.lines.length (s.pace.elapsed j)
    arrivals := fun j =>
      match s.lettersFor (j.sends - 1) with
      | .ok receipts => receipts
      | .error _ => [] }

/-- Turns that the rounds take at most, if they end: there is a line in each round, or each takes
time. -/
def turns (s : RoundsScript) : Nat :=
  (s.halt.afterLines.getD 0 + s.halt.afterMillis.getD 0 + 2) * Rounds.turnsEach s.count s.interval

/-- The rounds at their end, unless letters were refused on the way. -/
def perform (s : RoundsScript) : Except Failure Rounds := do
  let p ← s.site.prober
  discard (s.lettersFor 0)
  let fresh : Rounds := { prober := { p with journal := [] } }
  let r := Rounds.run s.surroundings s.count s.interval s.turns fresh
  for k in List.range r.prober.journal.lines.length do
    discard (s.lettersFor (k + 1))
  return r

end RoundsScript

end PortEcho.Bench
