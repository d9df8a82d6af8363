import PortEcho.Clock
import PortEcho.Endpoint.Lookup
import PortEcho.Journal

/-!
The surroundings of a program: how every call that it makes is answered.

Each answer may depend on the whole journal up to the call, so a program runs against any
surroundings, friendly or not, and a moment of its run is the journal up to then.
-/

namespace PortEcho

/-- The first time, in milliseconds, that the clock cannot tell: it counts seconds in a signed
word of 64 bits. -/
def horizon : Nat := 1000 * 0x8000000000000000

structure Surroundings where
  /-- The names of hosts and interfaces. -/
  known : Directory := .standalone
  /-- The socket's address after it was asked for one. -/
  bind : Journal → Endpoint → Except Fault Endpoint := fun _ address => .ok address
  /-- Whether a request to stop has come. -/
  stop : Journal → Bool := fun _ => false
  /-- What has come in on the socket since it was last looked at. -/
  arrivals : Journal → List Receipt := fun _ => []
  /-- Why the socket could not be waited for. -/
  poll : Journal → Option Fault := fun _ => none
  time : Journal → TimeOfDay := fun _ => .midnight
  /-- A clock in milliseconds. -/
  clock : Journal → Nat := fun _ => 0
  /-- How long the last reply took, in nanoseconds. -/
  roundTrip : Journal → Nat := fun _ => 0
  write : Journal → Option Fault := fun _ => none
  flush : Journal → Option Fault := fun _ => none
  /-- How many of the bytes are taken to be sent. -/
  send : Journal → Endpoint → Bytes → Except Fault Nat := fun _ _ bytes => .ok bytes.length

namespace Surroundings

/-- The request to stop has come by `sofar`, and stays. -/
def StopsFrom (w : Surroundings) (sofar : Journal) : Prop :=
  ∀ later, w.stop (later ++ sofar) = true

theorem StopsFrom.mono {w : Surroundings} {i j : Journal} (h : w.StopsFrom i) (hij : i <:+ j) :
    w.StopsFrom j := by
  obtain ⟨between, rfl⟩ := hij
  intro later
  rw [← List.append_assoc]
  exact h (later ++ between)

/-- The clock, read at `j`, can tell the time that is `span` milliseconds later. -/
def Tells (w : Surroundings) (j : Journal) (span : Nat) : Prop := w.clock j + span < horizon

instance (w : Surroundings) (j : Journal) (span : Nat) : Decidable (w.Tells j span) :=
  inferInstanceAs (Decidable (_ < _))

/-- Write a line and flush it. A line that is refused is not flushed; the fault is that of the
call that failed. -/
def print (w : Surroundings) (line : String) (j : Journal) : Option Fault × Journal :=
  let refusal := w.write j
  let j := .wrote line refusal :: j
  match refusal with
  | some e => (some e, j)
  | none =>
    let refusal := w.flush j
    (refusal, .flushed refusal :: j)

/-- The line is refused, or its flush is, or it is out. -/
theorem print_cases (w : Surroundings) (line : String) (j : Journal) :
    (∃ e, w.write j = some e ∧ w.print line j = (some e, .wrote line (some e) :: j)) ∨
    (∃ e, w.write j = none ∧ w.flush (.wrote line none :: j) = some e ∧
      w.print line j = (some e, .flushed (some e) :: .wrote line none :: j)) ∨
    (w.write j = none ∧ w.flush (.wrote line none :: j) = none ∧
      w.print line j = (none, .flushed none :: .wrote line none :: j)) := by
  unfold print
  rcases hw : w.write j with _ | e
  · rcases hf : w.flush (.wrote line none :: j) with _ | e
    · exact .inr (.inr ⟨rfl, rfl, by simp [hf]⟩)
    · exact .inr (.inl ⟨e, rfl, rfl, by simp [hf]⟩)
  · exact .inl ⟨e, rfl, rfl⟩

end Surroundings

end PortEcho
