import PortEcho.Buffer
import PortEcho.Responder.Handling
import PortEcho.Responder.Settings

/-!
A responder at its socket.

The socket signals only that something has come in since it was last polled. A poll that finds the
signal takes it away and starts a drain, which receives until nothing is left, until too many
faults have come up, or until a fault of the output. What a drain leaves on the socket is not seen
by a poll before something else comes in. A poll whose wait fails leaves the signal as it is.

A station moves by events, so that arrivals may fall between any two calls; `poll` is the run of
one whole poll into which no arrival falls.
-/

namespace PortEcho.Responder

/-- The most faults of receiving after which a drain still goes on. -/
def maxFaults : Nat := 16

/-- What a drain does after a fault of receiving. -/
inductive Verdict
  | stop
  | retry
  deriving DecidableEq, Repr

namespace Verdict

def ofFault (e : Fault) : Verdict :=
  if e.kind = .wouldBlock then stop else retry

/-- What is told about a fault; an empty socket and an interrupted call are nothing to tell. -/
def notices (e : Fault) : List Notice :=
  if e.kind = .wouldBlock ∨ e.kind = .interrupted then [] else [.receiveFailed e]

end Verdict

/-- Why there is no station at the address asked for. -/
structure ListenError where
  address : Endpoint
  fault : Fault
  deriving DecidableEq, Repr

def ListenError.message (e : ListenError) : String :=
  "failed to bind " ++ e.address.text ++ ": " ++ e.fault.message

inductive Phase
  | idle
  /-- Within a drain that has handled some datagrams and met some faults. -/
  | draining (handled faults : Nat)
  deriving DecidableEq, Repr

structure Station where
  desk : Desk := {}
  /-- What is queued on the socket, the oldest first. -/
  queue : List Receipt := []
  /-- Something has come in since the last poll. -/
  signal : Bool := false
  phase : Phase := .idle
  /-- How the last poll ended: with how many datagrams handled, or with which fault. -/
  outcome : Option (Except Fault Nat) := none
  /-- What all calls of receive write to. -/
  buffer : Buffer bufferSize := .blank bufferSize

inductive Event
  /-- Something comes in on the socket. -/
  | arrive (r : Receipt)
  /-- A poll begins, unless one is under way. -/
  | poll
  /-- The drain that is under way receives once. -/
  | receive

namespace Station

def journal (s : Station) : Journal := s.desk.journal

def enter (a : Act) (s : Station) : Station := { s with desk := s.desk.enter a }

def note (n : Notice) (s : Station) : Station := s.enter (.noted n)

/-- A station at a socket bound as the settings say, with the address of the socket. -/
def listen (w : Surroundings) (settings : Settings) : Except ListenError Endpoint × Station :=
  let given := w.bind [] settings.address
  let desk : Desk := { journal := [.bound settings.address given] }
  match given with
  | .error e => (.error ⟨settings.address, e⟩, { desk })
  | .ok own =>
    let desk := desk.note (.bound own)
    (.ok own, { desk := { desk with tally.started := w.clock desk.journal } })

/-- The poll under way is over. -/
def finish (outcome : Except Fault Nat) (s : Station) : Station :=
  { s with phase := .idle, outcome := some outcome }

def letIn (rs : List Receipt) (s : Station) : Station :=
  { s with queue := s.queue ++ rs, signal := s.signal || !rs.isEmpty }

/-- How a poll ends whose wait failed. A wait that was interrupted is no fault of the poll. -/
def failedWait (e : Fault) : Except Fault Nat := if e.kind = .interrupted then .ok 0 else .error e

/-- Wait for the socket. The signal is taken away once it is told. -/
def beginPoll (w : Surroundings) (s : Station) : Station :=
  match w.poll s.journal with
  | some e => (s.enter (.polled (.error e))).finish (failedWait e)
  | none =>
    let ready := s.signal
    let s := { s.enter (.polled (.ok ready)) with signal := false }
    if ready then { s with phase := .draining 0 0 } else s.finish (.ok 0)

/-- The oldest thing queued, and the station without it; an empty socket would block. -/
def next (s : Station) : Receipt × Station :=
  match s.queue with
  | [] => (.error .wouldBlock, s)
  | r :: rest =>
    let (r, buffer) := s.buffer.receive r
    (r, { s with queue := rest, buffer })

/-- Go on with what a call of receive gave. -/
def take (w : Surroundings) (handled faults : Nat) (r : Receipt) (s : Station) : Station :=
  let s := s.enter (.received r)
  match r with
  | .ok d =>
    match s.desk.handle w d with
    | (none, k) => { s with desk := k, phase := .draining (handled + 1) faults }
    | (some e, k) => { s with desk := k }.finish (.error e)
  | .error e =>
    let s := (Verdict.notices e).foldl (fun s n => s.note n) s
    match Verdict.ofFault e with
    | .stop => s.finish (.ok handled)
    | .retry =>
      if faults < maxFaults then { s with phase := .draining handled (faults + 1) }
      else (s.note (.gaveUp faults)).finish (.ok handled)

def step (w : Surroundings) (s : Station) : Event → Station
  | .arrive r => s.letIn [r]
  | .poll =>
    match s.phase with
    | .idle => s.beginPoll w
    | .draining .. => s
  | .receive =>
    match s.phase with
    | .idle => s
    | .draining handled faults =>
      let (r, s) := s.next
      s.take w handled faults r

def run (w : Surroundings) (s : Station) (es : List Event) : Station := es.foldl (step w) s

/-- The events of a whole poll: one more receive than there are things queued. -/
def pollEvents (s : Station) : List Event :=
  .poll :: List.replicate (s.queue.length + 1) .receive

/-- A whole poll into which no arrival falls. -/
def poll (w : Surroundings) (s : Station) : Station := s.run w s.pollEvents

@[simp] theorem run_nil (w : Surroundings) (s : Station) : s.run w [] = s := rfl

@[simp] theorem run_cons (w : Surroundings) (s : Station) (e : Event) (es : List Event) :
    s.run w (e :: es) = (s.step w e).run w es := rfl

theorem run_append (w : Surroundings) (s : Station) (es fs : List Event) :
    s.run w (es ++ fs) = (s.run w es).run w fs := by
  simp [run, List.foldl_append]

end Station

end PortEcho.Responder
