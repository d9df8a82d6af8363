import PortEcho.Journal

/-!
An output that refuses once: the line that would be its `n`th, or its `n`th flush.
-/

namespace PortEcho.Bench

structure Sink where
  failLine : Option Nat := none
  failFlush : Option Nat := none

namespace Sink

def write (s : Sink) (j : Journal) : Option Fault :=
  if s.failLine = some (j.writes + 1) then some (.custom .other "sink full") else none

def flush (s : Sink) (j : Journal) : Option Fault :=
  if s.failFlush = some (j.flushes + 1) then some (.custom .other "flush failed") else none

end Sink

end PortEcho.Bench
