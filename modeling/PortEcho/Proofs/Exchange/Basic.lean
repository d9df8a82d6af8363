import PortEcho.Proofs.Prober.Ping
import PortEcho.Proofs.Responder.Account

/-!
A prober and its responder with a network between them.

The network may lose, double, delay and reorder what the two send each other, but does not alter
it; others may send to either, though not from the prober's address and not from the port of its
target. An exchange moves by single calls of the two programs and by arrivals, so these follow each
other in any order.

Beside each queue stands the list of its origins: which ping has caused what is queued. A probe has
the origin of its ping, and a reply that of the datagram it answers.
-/

namespace PortEcho

open Responder (Station Event)

/-- What has caused a datagram: a ping, the first being number zero, or something else. -/
inductive Origin
  | ping (no : Nat)
  | elsewhere
  deriving DecidableEq, Repr

/-- A datagram that went out to the network. -/
structure Parcel where
  origin : Origin
  dest : Endpoint
  bytes : Bytes
  deriving DecidableEq

/-- How a ping ended. -/
structure Ending where
  result : Except Prober.Breakdown Prober.Outcome
  /-- What was received last, if anything was. -/
  last : Option (Receipt × Origin)
  deriving DecidableEq

structure Exchange where
  prober : Prober
  station : Station
  /-- The ping under way. -/
  flight : Option Prober.Flight := none
  /-- How many pings have begun. -/
  begun : Nat := 0
  /-- What the prober has sent. -/
  probes : List Parcel := []
  /-- What the responder has sent. -/
  replies : List Parcel := []
  inboxOrigins : List Origin := []
  queueOrigins : List Origin := []
  /-- How the pings ended, in their order. -/
  endings : List Ending := []

inductive Move
  /-- The prober begins a ping, unless one is under way. -/
  | ping
  /-- The ping under way receives once. -/
  | receive
  /-- The time of the ping under way is up. -/
  | expire
  /-- The responder begins a poll. -/
  | poll
  /-- The responder receives once. -/
  | drain
  /-- The network brings one of the probes to the responder. -/
  | bringProbe (k : Nat)
  /-- The network brings one of the replies to the prober, from some address of the responder. -/
  | bringReply (k : Nat) (source : Endpoint)
  /-- Something else comes in at the responder. -/
  | toResponder (r : Receipt)
  /-- Something else comes in at the prober. -/
  | toProber (r : Receipt)

/-- What went out between two journals. -/
def Journal.sentSince (i j : Journal) (o : Origin) : List Parcel :=
  (j.departures.drop i.departures.length).map fun d => ⟨o, d.1, d.2⟩

namespace Exchange

/-- A prober that has sent nothing, and a responder that has nothing of it. -/
def start (p : Prober) (s : Station) : Exchange where
  prober := p
  station := s
  queueOrigins := s.queue.map fun _ => .elsewhere

/-- The ping under way is over. -/
def finish (e : Ending) (p : Prober) (x : Exchange) : Exchange :=
  { x with prober := p, flight := none, endings := x.endings ++ [e] }

def ping (u : Surroundings) (x : Exchange) : Exchange :=
  let (given, p) := x.prober.launch u
  let sent := x.prober.journal.sentSince p.journal (.ping x.begun)
  let x := { x with begun := x.begun + 1, probes := x.probes ++ sent }
  match given with
  | .error e => x.finish ⟨.error e, none⟩ p
  | .ok f => { x with prober := p, flight := some f }

def receive (f : Prober.Flight) (x : Exchange) : Exchange :=
  match x.prober.inbox with
  | [] =>
    let (result, p) := x.prober.await f []
    x.finish ⟨result, none⟩ p
  | r :: rest =>
    let (r, buffer) := x.prober.buffer.receive r
    let o := x.inboxOrigins.headD .elsewhere
    let x := { x with inboxOrigins := x.inboxOrigins.tail }
    match Prober.examine f r { x.prober with inbox := rest, buffer } with
    | (some result, p) => x.finish ⟨result, some (r, o)⟩ p
    | (none, p) => { x with prober := p }

/-- The responder moves. What it sends answers what stood first in its queue. -/
def serve (w : Surroundings) (e : Event) (x : Exchange) : Exchange :=
  let s := x.station.step w e
  let sent := x.station.journal.sentSince s.journal (x.queueOrigins.headD .elsewhere)
  { x with
    station := s
    queueOrigins := x.queueOrigins.drop (x.station.queue.length - s.queue.length)
    replies := x.replies ++ sent }

def atResponder (r : Receipt) (o : Origin) (x : Exchange) : Exchange :=
  { x with station := x.station.letIn [r], queueOrigins := x.queueOrigins ++ [o] }

def atProber (r : Receipt) (o : Origin) (x : Exchange) : Exchange :=
  { x with
    prober := { x.prober with inbox := x.prober.inbox ++ [r] }
    inboxOrigins := x.inboxOrigins ++ [o] }

/-- One move, where `me` is the prober's address. -/
def step (u w : Surroundings) (me : Endpoint) (x : Exchange) : Move → Exchange
  | .ping => if x.flight.isSome then x else x.ping u
  | .receive =>
    match x.flight with
    | some f => x.receive f
    | none => x
  | .expire =>
    match x.flight with
    | some f => x.finish ⟨.ok (.timeout f.number), none⟩ x.prober
    | none => x
  | .poll => x.serve w .poll
  | .drain => x.serve w .receive
  | .bringProbe k =>
    match x.probes[k]? with
    | some c => x.atResponder (.ok ⟨me, c.bytes⟩) c.origin
    | none => x
  | .bringReply k source =>
    match x.replies[k]? with
    | some c =>
      if c.dest = me ∧ source.port = x.prober.target.port then
        x.atProber (.ok ⟨source, c.bytes⟩) c.origin
      else x
    | none => x
  | .toResponder r =>
    match r with
    | .ok d => if d.source = me then x else x.atResponder r .elsewhere
    | .error _ => x.atResponder r .elsewhere
  | .toProber r =>
    match r with
    | .ok d => if d.source.port = x.prober.target.port then x else x.atProber r .elsewhere
    | .error _ => x.atProber r .elsewhere

def run (u w : Surroundings) (me : Endpoint) (x : Exchange) (ms : List Move) : Exchange :=
  ms.foldl (step u w me) x

section run

variable (u w : Surroundings) (me : Endpoint) (x : Exchange)

@[simp] lemma run_nil : x.run u w me [] = x := rfl

@[simp] lemma run_cons (m : Move) (ms : List Move) :
    x.run u w me (m :: ms) = (x.step u w me m).run u w me ms := rfl

lemma run_append (ms ns : List Move) :
    x.run u w me (ms ++ ns) = (x.run u w me ms).run u w me ns := by
  simp [run, List.foldl_append]

lemma step_receive_of_flight {f : Prober.Flight} (hf : x.flight = some f) :
    x.step u w me .receive = x.receive f := by
  simp [step, hf]

lemma run_receive_of_none (hf : x.flight = none) (n : Nat) :
    x.run u w me (List.replicate n .receive) = x := by
  induction n with
  | zero => rfl
  | succ n ih =>
    have hs : x.step u w me .receive = x := by simp [step, hf]
    rw [List.replicate_succ, run_cons, hs, ih]

end run

section whole

variable {u w : Surroundings} {me : Endpoint} {x y z : Exchange} {f : Prober.Flight} {p : Prober}

lemma receive_nil (hq : x.prober.inbox = []) :
    x.receive f = x.finish ⟨(x.prober.await f []).1, none⟩ (x.prober.await f []).2 := by
  simp [receive, hq]

/-- What was received is looked at, and the ping goes on or is over. -/
lemma receive_cons {r : Receipt} {rest : List Receipt} (hq : x.prober.inbox = r :: rest) :
    ∃ (j : Journal) (b : Buffer Prober.bufferSize),
      let p : Prober := { x.prober with inbox := rest, journal := j, buffer := b }
      let x' : Exchange := { x with prober := p, inboxOrigins := x.inboxOrigins.tail }
      b = (x.prober.buffer.receive r).2 ∧
      ∃ result, Prober.examine f (Prober.seen r) { x.prober with inbox := rest, buffer := b } =
          (result, p) ∧
        x.receive f =
          match result with
          | some result =>
            x'.finish ⟨result, some (Prober.seen r, x.inboxOrigins.headD .elsewhere)⟩ p
          | none => x' := by
  obtain ⟨b, hb⟩ : ∃ b, b = (x.prober.buffer.receive r).2 := ⟨_, rfl⟩
  obtain ⟨j, hj⟩ := Prober.examine_journal f (Prober.seen r)
    { x.prober with inbox := rest, buffer := b }
  rcases he : Prober.examine f (Prober.seen r) { x.prober with inbox := rest, buffer := b } with
    ⟨result, p⟩
  rw [he] at hj
  subst hj
  refine ⟨j, b, hb, result, he, ?_⟩
  rcases result with _ | result
  · simp only [receive, hq, Prober.fst_receive, ← hb, he]
  · simp only [receive, hq, Prober.fst_receive, ← hb, he]
    rfl

/-- To receive until the ping is over is to await its end. -/
lemma run_receives (hf : x.flight = some f)
    (hz : z = x.run u w me (List.replicate (x.prober.inbox.length + 1) .receive)) :
    z.flight = none ∧ z.prober = (x.prober.await f x.prober.inbox).2 ∧
      ∃ last, z.endings = x.endings ++ [⟨(x.prober.await f x.prober.inbox).1, last⟩] := by
  induction hq : x.prober.inbox generalizing x with
  | nil =>
    rw [hq, List.length_nil, Nat.zero_add, List.replicate_one, run_cons, run_nil,
      step_receive_of_flight u w me x hf, receive_nil hq] at hz
    rw [hz]
    exact ⟨rfl, rfl, none, rfl⟩
  | cons r rest ih =>
    obtain ⟨j, b, hb, result, he, hx⟩ := receive_cons (f := f) hq
    rw [hq, List.length_cons, List.replicate_succ, run_cons,
      step_receive_of_flight u w me x hf] at hz
    rcases result with _ | result
    · -- passed over
      rw [hx] at hz
      have hnext := ih (x := { x with
        prober := { x.prober with inbox := rest, journal := j, buffer := b }
        inboxOrigins := x.inboxOrigins.tail }) hf hz rfl
      simpa only [Prober.await, Prober.fst_receive, ← hb, he] using hnext
    · rw [hx, run_receive_of_none u w me _ rfl] at hz
      rw [hz]
      simp only [Prober.await, Prober.fst_receive, ← hb, he]
      exact ⟨rfl, rfl, _, rfl⟩

/-- **A whole ping is a run.** Once its probe is out and the moves `ns` have brought what comes in
on the socket, to receive until the ping is over does what the ping does. -/
theorem ping_eq_run (hx : x.flight = none) (hl : x.prober.launch u = (.ok f, p))
    (ht : p.timeout ≠ 0) {ns : List Move} (hy : y = (x.step u w me .ping).run u w me ns)
    (hf : y.flight = (x.step u w me .ping).flight)
    (hp : y.prober = (x.step u w me .ping).prober.letIn u) :
    ∃ ms, (x.run u w me ms).flight = none ∧ (x.run u w me ms).prober = (x.prober.ping u).2 ∧
      ∃ last, (x.run u w me ms).endings = y.endings ++ [⟨(x.prober.ping u).1, last⟩] := by
  have hstep : x.step u w me .ping = x.ping u := by simp [step, hx]
  rw [hstep] at hf hp
  simp only [ping, hl] at hf hp
  have hping : x.prober.ping u = (p.letIn u).await f (p.letIn u).inbox := by
    have ht' : (p.letIn u).timeout ≠ 0 := ht
    simp [Prober.ping, hl, ht']
  refine ⟨.ping :: (ns ++ List.replicate (y.prober.inbox.length + 1) .receive), ?_⟩
  rw [run_cons, run_append, ← hy, hping, ← hp]
  exact run_receives hf rfl

end whole

end Exchange

end PortEcho
