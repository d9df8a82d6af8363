import PortEcho.Responder.Station

/-!
A responder that serves until it is asked to stop.

The request to stop is looked for only between two polls. A turn of the service looks for the
request and begins a poll, or receives once within a drain, or leaves a poll that is over. What
has come in on the socket is let in before a poll and before each call of receive.
-/

namespace PortEcho.Responder

inductive Stage
  /-- Between two polls. -/
  | checking
  /-- Within a poll. -/
  | polling
  | ended (result : Except Fault Tally)

structure Service where
  station : Station
  stage : Stage := .checking

namespace Service

def journal (s : Service) : Journal := s.station.journal

/-- Let in what has come in on the socket. -/
def letIn (w : Surroundings) (s : Station) : Station := s.letIn (w.arrivals s.journal)

/-- Look for the request to stop: leave the summary and end, or begin a poll. -/
def check (w : Surroundings) (s : Station) : Service :=
  let stop := w.stop s.journal
  let s := s.enter (.checked stop)
  if stop then
    let tally := s.desk.tally
    ⟨s.note (.stopping (tally.summary (w.clock s.journal))), .ended (.ok tally)⟩
  else ⟨(letIn w s).step w .poll, .polling⟩

/-- Leave a poll that is over. -/
def leave (s : Service) : Service :=
  match s.station.outcome with
  | some (.error e) => { s with stage := .ended (.error e) }
  | _ => { s with stage := .checking }

def turn (w : Surroundings) (s : Service) : Service :=
  match s.stage with
  | .ended _ => s
  | .checking => check w s.station
  | .polling =>
    match s.station.phase with
    | .draining .. => { s with station := (letIn w s.station).step w .receive }
    | .idle => s.leave

def result? (s : Service) : Option (Except Fault Tally) :=
  match s.stage with
  | .ended result => some result
  | _ => none

/-- The service after `n` turns, or at its end if that comes first. -/
def run (w : Surroundings) : Nat → Service → Service
  | 0, s => s
  | n + 1, s => if s.result?.isSome then s else run w n (s.turn w)

end Service

end PortEcho.Responder
