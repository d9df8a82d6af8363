import PortEcho.Buffer
import PortEcho.Prober.Settings
import PortEcho.Surroundings

/-!
A prober and one ping.

A ping sends the probe with the next number and receives until a reply to it comes or the time is
up. Datagrams from another port than the target's, and such that are no reply to this probe, are
passed over; the sender's host may differ from the target's. The number is used up even if the
probe cannot be sent.

The deadline of a ping is its timeout after the clock was read, before the probe is sent. It is
worked out when the probe is out, and where the clock cannot tell such a time the program breaks
down.

What is queued on the socket stays there from ping to ping, and so does what the buffer holds. A
ping that has used up the queue without a reply has timed out.
-/

namespace PortEcho

/-- The most bytes of a datagram that are received: as many as a probe has. -/
def Prober.bufferSize : Nat := Probe.length

structure Prober where
  target : Endpoint
  /-- How long a reply is waited for, in milliseconds. -/
  timeout : Nat
  next : UInt16 := 0
  /-- What is queued on the socket, the oldest first. -/
  inbox : List Receipt := []
  journal : Journal := []
  /-- What all calls of receive write to. -/
  buffer : Buffer Prober.bufferSize := .blank Prober.bufferSize

namespace Prober

inductive Outcome
  | reply (number : UInt16) (size : Nat)
  | timeout (number : UInt16)
  deriving DecidableEq, Repr

namespace Outcome

def isReply : Outcome → Bool
  | reply .. => true
  | timeout _ => false

def number : Outcome → UInt16
  | reply n _ => n
  | timeout n => n

end Outcome

/-- What breaks off a ping: a call that failed, or a time that the clock cannot tell. -/
inductive Breakdown
  | fault (e : Fault)
  | overflow
  deriving DecidableEq, Repr

/-- A probe under way. -/
structure Flight where
  number : UInt16
  deriving DecidableEq, Repr

def Flight.probe (f : Flight) : Bytes := Probe.build f.number

def enter (a : Act) (p : Prober) : Prober := { p with journal := a :: p.journal }

def note (n : Notice) (p : Prober) : Prober := p.enter (.noted n)

/-- A prober of `target` at a socket of its own in the target's family. -/
def start (w : Surroundings) (target : Endpoint) (timeout : Nat) : Option Fault × Prober :=
  let given := w.bind [] target.unbound
  let p : Prober := { target, timeout, journal := [.bound target.unbound given] }
  match given with
  | .error e => (some e, p)
  | .ok _ => (none, p)

/-- Send the probe with the next number, and see when a reply to it would be late. -/
def launch (w : Surroundings) (p : Prober) : Except Breakdown Flight × Prober :=
  let f : Flight := ⟨p.next⟩
  let timely := decide (w.Tells p.journal p.timeout)
  let given := w.send p.journal p.target f.probe
  let p := { p with next := p.next + 1 }.enter (.sent p.target f.probe given)
  match given with
  | .ok _ =>
    (if timely then .ok f else .error .overflow,
      p.note (.probeSent f.number f.probe.length p.target))
  | .error e => (.error (.fault e), p)

/-- Whether a datagram, as it was received, answers the probe under way. -/
def accepts (p : Prober) (f : Flight) (d : Datagram) : Bool :=
  d.source.port = p.target.port && Probe.isReply f.probe d.bytes

/-- Go on with what a call of receive gave: the end of the ping, if this ends it. -/
def examine (f : Flight) (r : Receipt) (p : Prober) :
    Option (Except Breakdown Outcome) × Prober :=
  let p := p.enter (.received r)
  match r with
  | .ok d =>
    if p.accepts f d then
      let p := if d.source.host = p.target.host then p else
        p.note (.answeredFrom p.target d.source)
      (some (.ok (.reply f.number d.bytes.length)), p)
    else (none, p.note (.ignored d.bytes.length d.source))
  | .error e =>
    match e.kind with
    | .wouldBlock | .timedOut => (some (.ok (.timeout f.number)), p)
    | .interrupted => (none, p)
    | _ => (some (.error (.fault e)), p)

/-- Receive what is queued until the ping ends; an empty queue means that the time is up. -/
def await (f : Flight) : List Receipt → Prober → Except Breakdown Outcome × Prober
  | [], p =>
    let p := { p with inbox := [] }.enter (.received (.error .wouldBlock))
    (.ok (.timeout f.number), p)
  | r :: rest, p =>
    let (r, buffer) := p.buffer.receive r
    match examine f r { p with inbox := rest, buffer } with
    | (some result, p) => (result, p)
    | (none, p) => await f rest p

/-- Let in what has come in on the socket. -/
def letIn (w : Surroundings) (p : Prober) : Prober :=
  { p with inbox := p.inbox ++ w.arrivals p.journal }

/-- One ping. With no time to wait in, nothing is received. -/
def ping (w : Surroundings) (p : Prober) : Except Breakdown Outcome × Prober :=
  match p.launch w with
  | (.error b, p) => (.error b, p)
  | (.ok f, p) =>
    let p := p.letIn w
    if p.timeout = 0 then (.ok (.timeout f.number), p) else p.await f p.inbox

end Prober

end PortEcho
