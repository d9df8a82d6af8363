import PortEcho.Surroundings

/-!
Surroundings that answer from the record.

A program that has to act on real surroundings is stepped against recalled ones: calls that are on
record get the answers they got, and calls beyond the record are taken to succeed. The first call
beyond the record is then the one to be made next, and its true answer goes on record.
-/

namespace PortEcho

/-- What is on record, and what a program may ask without making a call that is journaled. -/
structure Recall where
  record : Journal := []
  known : Directory := .standalone
  arrivals : List Receipt := []
  time : TimeOfDay := .midnight
  now : Nat := 0
  roundTrip : Nat := 0

namespace Recall

/-- The call that followed the journal `j`, with its answer. -/
def after? (r : Recall) (j : Journal) : Option Act :=
  if j.length < r.record.length then r.record[r.record.length - 1 - j.length]? else none

def surroundings (r : Recall) : Surroundings where
  known := r.known
  bind := fun j address =>
    match r.after? j with
    | some (.bound _ given) => given
    | _ => .ok address
  stop := fun j =>
    match r.after? j with
    | some (.checked stop) => stop
    | _ => false
  arrivals := fun _ => r.arrivals
  poll := fun j =>
    match r.after? j with
    | some (.polled (.error e)) => some e
    | _ => none
  time := fun _ => r.time
  clock := fun j =>
    match r.after? j with
    | some (.timed now) => now
    | _ => r.now
  roundTrip := fun _ => r.roundTrip
  write := fun j =>
    match r.after? j with
    | some (.wrote _ refusal) => refusal
    | _ => none
  flush := fun j =>
    match r.after? j with
    | some (.flushed refusal) => refusal
    | _ => none
  send := fun j _ bytes =>
    match r.after? j with
    | some (.sent _ _ given) => given
    | _ => .ok bytes.length

/-- The first call in the journal `planned` that is not on record. -/
def next? (r : Recall) (planned : Journal) : Option Act :=
  if r.record.length < planned.length then planned[planned.length - 1 - r.record.length]? else none

def enter (a : Act) (r : Recall) : Recall := { r with record := a :: r.record }

end Recall

end PortEcho
