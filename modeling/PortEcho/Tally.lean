/-!
The counters of a responder, and the summary of them that it leaves when it stops.
-/

namespace PortEcho

structure Tally where
  received : UInt64 := 0
  echoed : UInt64 := 0
  failures : UInt64 := 0
  /-- When the responder started, on a clock in milliseconds. -/
  started : Int := 0
  deriving DecidableEq, Repr

namespace Tally

def countReceived (t : Tally) : Tally := { t with received := t.received + 1 }

/-- A reply of `n` bytes went out. -/
def countEchoed (n : Nat) (t : Tally) : Tally := { t with echoed := t.echoed + UInt64.ofNat n }

def countFailure (t : Tally) : Tally := { t with failures := t.failures + 1 }

/-- Whole seconds since the start; none if the start lies ahead. -/
def uptime (now : Int) (t : Tally) : Nat := ((now - t.started) / 1000).toNat

def summary (now : Int) (t : Tally) : String :=
  toString t.received ++ " datagrams received, " ++ toString t.echoed ++ " bytes echoed, " ++
    toString t.failures ++ " send failures, uptime " ++ toString (t.uptime now) ++ "s"

end Tally

end PortEcho
