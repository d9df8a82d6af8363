import PortEcho.Surroundings

/-!
What a responder does with one datagram.

The datagram is counted and reported on a line; once the line is written and flushed, the first
bytes go back to the sender. A fault of the output ends the handling at once, a fault of the
socket is only counted.
-/

namespace PortEcho.Responder

/-- What a responder has counted and done so far. -/
structure Desk where
  tally : Tally := {}
  journal : Journal := []

namespace Desk

def enter (a : Act) (k : Desk) : Desk := { k with journal := a :: k.journal }

def note (n : Notice) (k : Desk) : Desk := k.enter (.noted n)

/-- Count what became of a reply of `size` bytes to `dest`. -/
def settle (dest : Endpoint) (size : Nat) (given : Except Fault Nat) (k : Desk) : Desk :=
  match given with
  | .ok n =>
    let k := if n < size then k.note (.shortSend dest n size) else k
    { k with tally := k.tally.countEchoed n }
  | .error e =>
    let k := k.note (.replyRefused dest e)
    { k with tally := k.tally.countFailure }

/-- Send the first bytes of a datagram back. -/
def answer (w : Surroundings) (d : Datagram) (k : Desk) : Desk :=
  let reply := Probe.reply d.bytes
  let given := w.send k.journal d.source reply
  (k.enter (.sent d.source reply given)).settle d.source reply.length given

/-- Count and announce a datagram. -/
def letIn (d : Datagram) (k : Desk) : Desk :=
  let k := { k with tally := k.tally.countReceived }
  k.note (.received d.bytes.length d.source)

/-- The line that reports a datagram handled now. -/
def lineFor (w : Surroundings) (d : Datagram) (k : Desk) : String :=
  (Report.ofDatagram (w.time k.journal) d).line ++ "\n"

/-- Write and flush a line. -/
def print (w : Surroundings) (line : String) (k : Desk) : Option Fault × Desk :=
  let (fault, j) := w.print line k.journal
  (fault, { k with journal := j })

/-- Handle one datagram; the fault, if any, is one of the output. -/
def handle (w : Surroundings) (d : Datagram) (k : Desk) : Option Fault × Desk :=
  let k := k.letIn d
  match k.print w (k.lineFor w d) with
  | (some e, k) => (some e, k)
  | (none, k) => (none, k.answer w d)

end Desk

end PortEcho.Responder
