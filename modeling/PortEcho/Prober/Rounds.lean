import PortEcho.Prober.Ping

/-!
Rounds of pings until a request to stop.

A round is a number of pings, each reported on a line; then the prober rests until the interval
has passed. The request to stop is looked for before each round, before each ping and before each
nap of a rest, and no nap is longer than a quarter of a second. Where the clock cannot tell the end
of a rest, the program breaks down before the rest begins.
-/

namespace PortEcho.Prober

/-- The longest nap, in milliseconds. -/
def longestNap : Nat := 250

inductive RoundsPhase
  /-- Before a round. -/
  | starting
  /-- Within a round, with some pings left. -/
  | pinging (left : Nat)
  /-- Between two rounds, until the clock shows `resume`. -/
  | resting (resume : Nat)
  | ended (result : Except Breakdown Unit)

structure Rounds where
  prober : Prober
  phase : RoundsPhase := .starting

/-- The line that reports a ping. -/
def Outcome.line (o : Outcome) : String :=
  toString o.number ++ (if o.isReply then ": ping" else ": ---") ++ "\n"

/-- Write and flush the line that reports a ping. -/
def report (w : Surroundings) (o : Outcome) (p : Prober) : Option Fault × Prober :=
  let (fault, j) := w.print o.line p.journal
  (fault, { p with journal := j })

/-- One ping and its report. -/
def pingAndReport (w : Surroundings) (p : Prober) : Option Breakdown × Prober :=
  match p.ping w with
  | (.error b, p) => (some b, p)
  | (.ok o, p) =>
    let (fault, p) := p.report w o
    (fault.map .fault, p)

/-- Look for the request to stop. -/
def check (w : Surroundings) (p : Prober) : Bool × Prober :=
  let stop := w.stop p.journal
  (stop, p.enter (.checked stop))

/-- Read the clock. -/
def readClock (w : Surroundings) (p : Prober) : Nat × Prober :=
  let now := w.clock p.journal
  (now, p.enter (.timed now))

namespace Rounds

/-- Before a round. -/
def start (w : Surroundings) (count : Nat) (p : Prober) : Rounds :=
  match p.check w with
  | (true, p) => ⟨p, .ended (.ok ())⟩
  | (false, p) => ⟨p, .pinging count⟩

/-- The next ping of a round that has `left` more after it. -/
def next (w : Surroundings) (left : Nat) (p : Prober) : Rounds :=
  match p.check w with
  | (true, p) => ⟨p, .ended (.ok ())⟩
  | (false, p) =>
    match p.pingAndReport w with
    | (some b, p) => ⟨p, .ended (.error b)⟩
    | (none, p) => ⟨p, .pinging left⟩

/-- The end of a round, where it is seen when the next one begins. -/
def finish (w : Surroundings) (interval : Nat) (p : Prober) : Rounds :=
  let timely := decide (w.Tells p.journal interval)
  let (now, p) := p.readClock w
  ⟨p, if timely then .resting (now + interval) else .ended (.error .overflow)⟩

/-- The next nap, unless the rest is over. -/
def rest (w : Surroundings) (resume : Nat) (p : Prober) : Rounds :=
  match p.check w with
  | (true, p) => ⟨p, .starting⟩
  | (false, p) =>
    let (now, p) := p.readClock w
    if resume ≤ now then ⟨p, .starting⟩
    else ⟨p.enter (.slept (min (resume - now) longestNap)), .resting resume⟩

/-- One turn of rounds of `count` pings, with `interval` milliseconds between two of them. -/
def turn (w : Surroundings) (count interval : Nat) (r : Rounds) : Rounds :=
  match r.phase with
  | .starting => start w count r.prober
  | .pinging (left + 1) => next w left r.prober
  | .pinging 0 => finish w interval r.prober
  | .resting resume => rest w resume r.prober
  | .ended _ => r

def result? (r : Rounds) : Option (Except Breakdown Unit) :=
  match r.phase with
  | .ended result => some result
  | _ => none

/-- Turns that a round and the rest after it take at most, if naps last as long as they are meant
to. -/
def turnsEach (count interval : Nat) : Nat := count + interval / longestNap + 4

/-- The rounds after `n` turns, or at their end if that comes first. -/
def run (w : Surroundings) (count interval : Nat) : Nat → Rounds → Rounds
  | 0, r => r
  | n + 1, r => if r.result?.isSome then r else run w count interval n (r.turn w count interval)

end Rounds

end PortEcho.Prober
