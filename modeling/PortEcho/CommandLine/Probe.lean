import PortEcho.CommandLine.Run
import PortEcho.Prober.Rounds
import PortEcho.Prober.Survey

/-!
The prober's command line. Arguments that are refused, and hosts that have no address, end the
program before it touches a socket. With an interval the program goes on in rounds; without one it
makes a survey, and its status says whether all pings were answered.
-/

namespace PortEcho.CommandLine

open Prober

namespace Probe

def program : String := "uping-probe"

def refusal (e : SettingsError) : String :=
  program ++ ": " ++ e.message ++ "\n" ++ usage ++ "\n"

/-- How a fault is shown that ends the program. -/
def detail (e : Fault) : String := (Error.socket e).detail

/-- A program that ends because of a breakdown. A time that the clock cannot tell ends it at once,
with a status of its own. -/
def broken (j : Journal) : Breakdown → Run
  | .fault e => .failed j (detail e)
  | .overflow => ⟨j, "overflow when adding duration to instant\n", some 101⟩

def ofRounds (r : Rounds) : Run :=
  match r.result? with
  | some (.ok _) => ⟨r.prober.journal, "", some 0⟩
  | some (.error b) => broken r.prober.journal b
  | none => ⟨r.prober.journal, "", none⟩

def ofSurvey : Option Breakdown × Survey → Run
  | (some b, s) => broken s.prober.journal b
  | (none, s) => ⟨s.prober.journal, "", some (if s.passed then 0 else 1)⟩

/-- Read the arguments, look the host up and open a prober of it. -/
def start (w : Surroundings) (args : List String) : Except Run (Settings × Prober) :=
  match Settings.ofArgs args with
  | .error e => .error ⟨[], refusal e, some 1⟩
  | .ok settings =>
    match settings.resolve w.known with
    | .error e@(.unresolved _) => .error ⟨[], program ++ ": " ++ e.message ++ "\n", some 1⟩
    | .error e => .error (.failed [] e.detail)
    | .ok target =>
      match Prober.start w target defaultTimeout with
      | (some e, p) => .error (.failed p.journal (detail e))
      | (none, p) => .ok (settings, p)

/-- An interval in milliseconds. -/
def millis (secs : UInt64) : Nat := 1000 * secs.toNat

end Probe

/-- Run the prober; if it makes rounds, for a number of turns of them. -/
def probe (w : Surroundings) (turns : Nat) (args : List String) : Run :=
  match Probe.start w args with
  | .error r => r
  | .ok (settings, p) =>
    match settings.interval with
    | some secs =>
      let interval := Probe.millis secs
      Probe.ofRounds (Rounds.run w settings.count.toNat interval turns { prober := p })
    | none => Probe.ofSurvey (Survey.run w settings.count.toNat { prober := p })

end PortEcho.CommandLine
