import PortEcho.Prober.Ping

/-!
A survey: a fixed number of pings, each reported on a numbered line, and a verdict on all of them.

Pings that timed out are counted in a signed word of 32 bits, which wraps, and the survey passes
if the counter is not positive.
-/

namespace PortEcho.Prober

/-- Nanoseconds as milliseconds with three places, a half going to the even neighbour. -/
def millisText (nanos : Nat) : String :=
  let down := nanos / 1000
  let rest := nanos % 1000
  let micros := if 500 < rest ∨ (rest = 500 ∧ down % 2 = 1) then down + 1 else down
  let places := toString (micros % 1000)
  toString (micros / 1000) ++ "." ++ String.ofList (List.replicate (3 - places.length) '0') ++
    places

/-- The line that reports the ping numbered `no`, whose reply took `nanos` if there was one. -/
def surveyLine (no nanos : Nat) (o : Outcome) : String :=
  toString no ++ (if o.isReply then ": ok (" ++ millisText nanos ++ " ms)" else ": fail") ++ "\n"

structure Survey where
  prober : Prober
  /-- The number of the next line. -/
  no : Nat := 1
  failures : Int32 := 0

namespace Survey

/-- Report a ping on the output, which is taken to be writable. -/
def record (w : Surroundings) (o : Outcome) (s : Survey) : Survey where
  prober := s.prober.enter (.wrote (surveyLine s.no (w.roundTrip s.prober.journal) o) none)
  no := s.no + 1
  failures := if o.isReply then s.failures else s.failures + 1

/-- One more ping and its report. -/
def next (w : Surroundings) (s : Survey) : Option Breakdown × Survey :=
  match s.prober.ping w with
  | (.error b, p) => (some b, { s with prober := p })
  | (.ok o, p) => (none, record w o { s with prober := p })

/-- The survey after `n` more pings, or after the one that broke down. -/
def run (w : Surroundings) : Nat → Survey → Option Breakdown × Survey
  | 0, s => (none, s)
  | n + 1, s =>
    match s.next w with
    | (some b, s) => (some b, s)
    | (none, s) => run w n s

def passed (s : Survey) : Bool := s.failures ≤ 0

end Survey

end PortEcho.Prober
