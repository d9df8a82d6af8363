/-!
When a run on the bench is asked to stop.
-/

namespace PortEcho.Bench

/-- When a run is asked to stop: at once, when so many lines are complete, or after some time. -/
structure Halt where
  preset : Bool := false
  afterLines : Option Nat := none
  afterMillis : Option Nat := none

/-- Whether the request to stop has come, after some lines and some time. -/
def Halt.due (h : Halt) (lines millis : Nat) : Bool :=
  h.preset || (0 < lines && h.afterLines.any (· ≤ lines)) || h.afterMillis.any (· ≤ millis)

end PortEcho.Bench
