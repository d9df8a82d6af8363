import PortEcho.Journal

/-!
How time passes for a program on the bench.

Only waiting takes time there: a nap lasts as long as it is meant to, and waiting in vain for a
datagram lasts until the time is up. A program that never waits would stand still, so looks at the
clock may be given a length as well.
-/

namespace PortEcho.Bench

/-- How long calls take, in milliseconds. -/
structure Pace where
  /-- Waiting in vain for a datagram. -/
  wait : Nat
  /-- A look at the clock. -/
  look : Nat := 0

namespace Pace

def length (p : Pace) : Act → Nat
  | .slept millis => millis
  | .received (.error _) => p.wait
  | .timed _ => p.look
  | _ => 0

/-- The time that all calls of a journal have taken. -/
def elapsed (p : Pace) : Journal → Nat
  | [] => 0
  | a :: j => p.elapsed j + p.length a

end Pace

end PortEcho.Bench
