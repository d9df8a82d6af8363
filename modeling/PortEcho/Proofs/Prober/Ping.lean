import Mathlib.Data.List.Basic
import PortEcho.Prober.Ping

/-!
What the steps of a ping do to the prober, and what a whole ping does.

A launch uses up a number and sends one probe or none, also where the clock cannot tell when a reply
would be late; a look at a receipt only adds to the journal. So a ping passes over the beginning of
the queue, up to the first receipt that ends it, and leaves what comes after that.
-/

namespace PortEcho.Prober

variable {u : Surroundings} {p : Prober} {f : Flight}

/-- The prober once its probe is out, so many bytes of it. -/
def dispatched (p : Prober) (n : Nat) : Prober :=
  { p with
    next := p.next + 1
    journal := .noted (.probeSent p.next (Probe.build p.next).length p.target) ::
      .sent p.target (Probe.build p.next) (.ok n) :: p.journal }

/-- A launch uses up a number, whether the probe is refused or not. -/
lemma launch_eq (u : Surroundings) (p : Prober) :
    p.launch u =
      match u.send p.journal p.target (Probe.build p.next) with
      | .error e => (.error (.fault e), { p with
          next := p.next + 1
          journal := .sent p.target (Probe.build p.next) (.error e) :: p.journal })
      | .ok n =>
        (if u.Tells p.journal p.timeout then .ok ⟨p.next⟩ else .error .overflow,
          p.dispatched n) := by
  unfold launch
  rcases hs : u.send p.journal p.target (Probe.build p.next) with e | n
  · simp [enter, Flight.probe, hs]
  · simp [enter, note, Flight.probe, hs, dispatched]

/-- A probe is refused, or some of it goes out, with a deadline that the clock can tell or not. -/
lemma launch_cases (u : Surroundings) (p : Prober) :
    (∃ e, p.launch u = (.error (.fault e), { p with
      next := p.next + 1
      journal := .sent p.target (Probe.build p.next) (.error e) :: p.journal })) ∨
    (∃ n, u.send p.journal p.target (Probe.build p.next) = .ok n ∧
      ¬ u.Tells p.journal p.timeout ∧ p.launch u = (.error .overflow, p.dispatched n)) ∨
    (∃ n, u.send p.journal p.target (Probe.build p.next) = .ok n ∧
      u.Tells p.journal p.timeout ∧ p.launch u = (.ok ⟨p.next⟩, p.dispatched n)) := by
  rw [launch_eq]
  rcases hs : u.send p.journal p.target (Probe.build p.next) with e | n
  · exact .inl ⟨e, rfl⟩
  · by_cases ht : u.Tells p.journal p.timeout
    · exact .inr (.inr ⟨n, rfl, ht, by simp only [if_pos ht]⟩)
    · exact .inr (.inl ⟨n, rfl, ht, by simp only [if_neg ht]⟩)

/-- Whether a datagram, as it was received, answers the probe that went to `target`. -/
def answers (target : Endpoint) (f : Flight) (d : Datagram) : Bool :=
  d.source.port = target.port && Probe.isReply f.probe d.bytes

/-- How a receipt ends the ping under way, if it does. -/
def verdict (target : Endpoint) (f : Flight) (r : Receipt) : Option (Except Breakdown Outcome) :=
  match r with
  | .ok d => if answers target f d then some (.ok (.reply f.number d.bytes.length)) else none
  | .error e =>
    match e.kind with
    | .wouldBlock | .timedOut => some (.ok (.timeout f.number))
    | .interrupted => none
    | _ => some (.error (.fault e))

/-- What a look at a receipt leaves in the journal. -/
def trace (target : Endpoint) (f : Flight) (r : Receipt) : Journal :=
  match r with
  | .ok d =>
    if answers target f d then
      (if d.source.host = target.host then [] else [.noted (.answeredFrom target d.source)]) ++
        [.received r]
    else [.noted (.ignored d.bytes.length d.source), .received r]
  | .error _ => [.received r]

/-- A look at a receipt is settled by the target and the probe. -/
lemma examine_eq (f : Flight) (r : Receipt) (p : Prober) :
    examine f r p =
      (verdict p.target f r, { p with journal := trace p.target f r ++ p.journal }) := by
  unfold examine verdict trace
  rcases r with e | d
  · simp only [enter]
    split <;> simp_all
  · have hacc : (p.enter (.received (.ok d))).accepts f d = answers p.target f d := rfl
    simp only [hacc]
    by_cases ha : answers p.target f d
    · by_cases hh : d.source.host = p.target.host <;> simp [ha, hh, enter, note]
    · simp [ha, enter, note]

lemma examine_journal (f : Flight) (r : Receipt) (p : Prober) :
    ∃ j, (examine f r p).2 = { p with journal := j } :=
  ⟨_, congrArg Prod.snd (examine_eq f r p)⟩

lemma verdict_ok (target : Endpoint) (f : Flight) (d : Datagram) :
    verdict target f (.ok d) =
      if answers target f d then some (.ok (.reply f.number d.bytes.length)) else none := rfl

lemma trace_ok (target : Endpoint) (f : Flight) (d : Datagram) :
    trace target f (.ok d) =
      if answers target f d then
        (if d.source.host = target.host then [] else [.noted (.answeredFrom target d.source)]) ++
          [.received (.ok d)]
      else [.noted (.ignored d.bytes.length d.source), .received (.ok d)] := rfl

/-- A receipt ends a ping with a reply only if it is a datagram that answers the probe. -/
lemma verdict_reply {target : Endpoint} {r : Receipt} {n : UInt16} {size : Nat}
    (h : verdict target f r = some (.ok (.reply n size))) :
    ∃ d, r = .ok d ∧ answers target f d ∧ n = f.number ∧ size = d.bytes.length := by
  rcases r with e | d
  · unfold verdict at h
    dsimp only at h
    split at h <;> simp at h
  · rw [verdict_ok] at h
    by_cases ha : answers target f d
    · rw [if_pos ha] at h
      obtain ⟨hn, hsize⟩ := Outcome.reply.inj (Except.ok.inj (Option.some.inj h))
      exact ⟨d, rfl, ha, hn.symm, hsize.symm⟩
    · rw [if_neg ha] at h
      cases h

/-- A ping ends with a reply only at a datagram that answers it. -/
lemma examine_reply {r : Receipt} {n : UInt16} {size : Nat}
    (h : (examine f r p).1 = some (.ok (.reply n size))) :
    ∃ d, r = .ok d ∧ d.source.port = p.target.port ∧ Probe.isReply f.probe d.bytes = true ∧
      n = f.number ∧ size = d.bytes.length := by
  rw [examine_eq] at h
  obtain ⟨d, hd, ha, hn, hsize⟩ := verdict_reply h
  obtain ⟨hport, hreply⟩ := (Bool.and_eq_true _ _).mp ha
  exact ⟨d, hd, of_decide_eq_true hport, hreply, hn, hsize⟩

/-- A receipt as a ping sees it. -/
def seen (r : Receipt) : Receipt := r.map (Datagram.cut bufferSize)

/-- Whatever the buffer holds, a ping sees the receipt. -/
lemma fst_receive (b : Buffer bufferSize) (r : Receipt) : (b.receive r).1 = seen r :=
  b.fst_receive r

/-- The buffer after receipts, one after the other. -/
def filled (b : Buffer bufferSize) (rs : List Receipt) : Buffer bufferSize :=
  rs.foldl (fun b r => (b.receive r).2) b

lemma seen_eq_ok {r : Receipt} {d' : Datagram} (h : seen r = .ok d') :
    ∃ d, r = .ok d ∧ d' = d.cut bufferSize := by
  rcases r with e | d
  · cases h
  · exact ⟨d, rfl, (Except.ok.inj h).symm⟩

/-- What looks at receipts, one after the other, leave in the journal. -/
def traces (target : Endpoint) (f : Flight) (rs : List Receipt) : Journal :=
  rs.reverse.flatMap fun r => trace target f (seen r)

lemma traces_cons (target : Endpoint) (f : Flight) (r : Receipt) (rs : List Receipt) :
    traces target f (r :: rs) = traces target f rs ++ trace target f (seen r) := by
  simp [traces]

/-- What is queued is replaced on the way. -/
lemma await_inbox (f : Flight) (rs queued : List Receipt) (p : Prober) :
    ({ p with inbox := queued } : Prober).await f rs = p.await f rs := by
  cases rs <;> rfl

/-- To await the end of a ping is to look at the oldest receipt first. -/
lemma await_cons (f : Flight) (r : Receipt) (rest : List Receipt) (p : Prober) :
    p.await f (r :: rest) =
      match verdict p.target f (seen r) with
      | some result => (result, { p with
          inbox := rest
          journal := trace p.target f (seen r) ++ p.journal
          buffer := filled p.buffer [r] })
      | none => ({ p with
          journal := trace p.target f (seen r) ++ p.journal
          buffer := filled p.buffer [r] } : Prober).await f rest := by
  rw [await]
  simp only [fst_receive, examine_eq]
  rcases verdict p.target f (seen r) with _ | result
  · exact await_inbox f rest rest { p with
      journal := trace p.target f (seen r) ++ p.journal, buffer := (p.buffer.receive r).2 }
  · rfl

/-- Receipts that do not end the ping are passed over. -/
lemma await_append {passed : List Receipt} (rest : List Receipt) (p : Prober)
    (h : ∀ r ∈ passed, verdict p.target f (seen r) = none) :
    p.await f (passed ++ rest) =
      ({ p with
        journal := traces p.target f passed ++ p.journal
        buffer := filled p.buffer passed } : Prober).await f rest := by
  induction passed generalizing p with
  | nil => rfl
  | cons r passed ih =>
    have hr : verdict p.target f (seen r) = none := h r (by simp)
    obtain ⟨q, hq⟩ : ∃ q : Prober, q = { p with
      journal := trace p.target f (seen r) ++ p.journal, buffer := filled p.buffer [r] } :=
      ⟨_, rfl⟩
    have htarget : q.target = p.target := by rw [hq]
    have hrest : ∀ x ∈ passed, verdict q.target f (seen x) = none := by
      rw [htarget]
      exact fun x hx => h x (List.mem_cons_of_mem _ hx)
    calc p.await f (r :: passed ++ rest)
        = q.await f (passed ++ rest) := by rw [List.cons_append, await_cons, hr, hq]
      _ = ({ q with
            journal := traces q.target f passed ++ q.journal
            buffer := filled q.buffer passed } : Prober).await f rest := ih q hrest
      _ = ({ p with
            journal := traces p.target f (r :: passed) ++ p.journal
            buffer := filled p.buffer (r :: passed) } : Prober).await f rest := by
          rw [htarget, traces_cons, List.append_assoc, hq]
          rfl

/-- The first receipt that ends the ping ends it, and what comes after it stays queued. -/
lemma await_of_verdict {passed : List Receipt} {r : Receipt} {result : Except Breakdown Outcome}
    (rest : List Receipt) (p : Prober) (h : ∀ x ∈ passed, verdict p.target f (seen x) = none)
    (hr : verdict p.target f (seen r) = some result) :
    p.await f (passed ++ r :: rest) = (result, { p with
      inbox := rest
      journal := traces p.target f (passed ++ [r]) ++ p.journal
      buffer := filled p.buffer (passed ++ [r]) }) := by
  rw [await_append _ p h, await_cons, hr]
  simp [traces, filled]

/-- A ping that nothing ends uses up the queue and has timed out. -/
lemma await_of_none {rs : List Receipt} (p : Prober)
    (h : ∀ x ∈ rs, verdict p.target f (seen x) = none) :
    p.await f rs = (.ok (.timeout f.number), { p with
      inbox := []
      journal := .received (.error .wouldBlock) :: (traces p.target f rs ++ p.journal)
      buffer := filled p.buffer rs }) := by
  have happ := await_append [] p h
  rw [List.append_nil] at happ
  rw [happ]
  rfl

/-- Nothing in the queue ends the ping, or there is a first receipt that does. -/
lemma verdict_cases (target : Endpoint) (f : Flight) (rs : List Receipt) :
    (∀ x ∈ rs, verdict target f (seen x) = none) ∨
    ∃ passed r rest result, rs = passed ++ r :: rest ∧
      (∀ x ∈ passed, verdict target f (seen x) = none) ∧
      verdict target f (seen r) = some result := by
  induction rs with
  | nil => exact .inl (by simp)
  | cons r rs ih =>
    rcases hr : verdict target f (seen r) with _ | result
    · rcases ih with h | ⟨passed, x, rest, result, rfl, h, hx⟩
      · exact .inl (List.forall_mem_cons.mpr ⟨hr, h⟩)
      · exact .inr ⟨r :: passed, x, rest, result, rfl, List.forall_mem_cons.mpr ⟨hr, h⟩, hx⟩
    · exact .inr ⟨[], r, rs, result, rfl, by simp, hr⟩

/-- What is queued once the probe of a ping is out. -/
def queued (u : Surroundings) (p : Prober) : List Receipt :=
  p.inbox ++ u.arrivals (p.launch u).2.journal

/-- The prober once its probe is out, so many bytes of it, and what has come in by then is
queued. -/
def launched (u : Surroundings) (p : Prober) (n : Nat) : Prober :=
  { p.dispatched n with inbox := p.queued u }

/-- A ping whose probe is refused is over. -/
lemma ping_of_refused {e : Fault}
    (h : u.send p.journal p.target (Probe.build p.next) = .error e) :
    p.ping u = (.error (.fault e), { p with
      next := p.next + 1
      journal := .sent p.target (Probe.build p.next) (.error e) :: p.journal }) := by
  have hl := launch_eq u p
  rw [h] at hl
  simp [ping, hl]

/-- A ping whose deadline the clock cannot tell breaks down with its probe out. -/
lemma ping_of_untold {n : Nat} (h : u.send p.journal p.target (Probe.build p.next) = .ok n)
    (ht : ¬ u.Tells p.journal p.timeout) : p.ping u = (.error .overflow, p.dispatched n) := by
  have hl := launch_eq u p
  rw [h] at hl
  simp only [if_neg ht] at hl
  unfold ping
  rw [hl]

/-- A ping whose probe goes out awaits its end; without time, it looks at nothing. -/
lemma ping_of_sent {n : Nat} (h : u.send p.journal p.target (Probe.build p.next) = .ok n)
    (ht : u.Tells p.journal p.timeout) :
    p.ping u = if p.timeout = 0 then (.ok (.timeout p.next), p.launched u n)
      else (p.launched u n).await ⟨p.next⟩ (p.queued u) := by
  have hl := launch_eq u p
  rw [h] at hl
  simp only [if_pos ht] at hl
  unfold ping launched queued
  rw [hl]
  rfl

/-- The probe of a ping is refused, or it goes out, with a deadline that the clock can tell or
not. -/
lemma ping_cases (u : Surroundings) (p : Prober) :
    (∃ e, u.send p.journal p.target (Probe.build p.next) = .error e ∧
      p.ping u = (.error (.fault e), { p with
        next := p.next + 1
        journal := .sent p.target (Probe.build p.next) (.error e) :: p.journal })) ∨
    (∃ n, u.send p.journal p.target (Probe.build p.next) = .ok n ∧
      ¬ u.Tells p.journal p.timeout ∧ p.ping u = (.error .overflow, p.dispatched n)) ∨
    ∃ n, u.send p.journal p.target (Probe.build p.next) = .ok n ∧ u.Tells p.journal p.timeout ∧
      p.ping u = if p.timeout = 0 then (.ok (.timeout p.next), p.launched u n)
        else (p.launched u n).await ⟨p.next⟩ (p.queued u) := by
  rcases hs : u.send p.journal p.target (Probe.build p.next) with e | n
  · exact .inl ⟨e, rfl, ping_of_refused hs⟩
  · by_cases ht : u.Tells p.journal p.timeout
    · exact .inr (.inr ⟨n, rfl, ht, ping_of_sent hs ht⟩)
    · exact .inr (.inl ⟨n, rfl, ht, ping_of_untold hs ht⟩)

/-- The ways that a ping can go, to its result and the prober after it. -/
inductive Way (u : Surroundings) (p : Prober) : Except Breakdown Outcome → Prober → Prop
  /-- The probe is refused. -/
  | refused (e : Fault) (h : u.send p.journal p.target (Probe.build p.next) = .error e) :
    Way u p (.error (.fault e)) { p with
      next := p.next + 1, journal := .sent p.target (Probe.build p.next) (.error e) :: p.journal }
  /-- The clock cannot tell the deadline. -/
  | untold (n : Nat) (h : u.send p.journal p.target (Probe.build p.next) = .ok n)
      (ht : ¬ u.Tells p.journal p.timeout) :
    Way u p (.error .overflow) (p.dispatched n)
  /-- There is no time to wait in. -/
  | hurried (n : Nat) (h : u.send p.journal p.target (Probe.build p.next) = .ok n)
      (ht : p.timeout = 0) :
    Way u p (.ok (.timeout p.next)) (p.launched u n)
  /-- Nothing that is queued ends the ping. -/
  | waited (n : Nat) (h : u.send p.journal p.target (Probe.build p.next) = .ok n)
      (ht : p.timeout ≠ 0)
      (hnone : ∀ x ∈ p.queued u, verdict p.target ⟨p.next⟩ (seen x) = none) :
    Way u p (.ok (.timeout p.next)) { p.launched u n with
      inbox := []
      journal := .received (.error .wouldBlock) ::
        (traces p.target ⟨p.next⟩ (p.queued u) ++ (p.launched u n).journal)
      buffer := filled p.buffer (p.queued u) }
  /-- A receipt ends the ping, and none before it does. -/
  | ended (n : Nat) (h : u.send p.journal p.target (Probe.build p.next) = .ok n)
      (ht : p.timeout ≠ 0) (passed : List Receipt) (r : Receipt) (rest : List Receipt)
      (result : Except Breakdown Outcome) (hqueue : p.queued u = passed ++ r :: rest)
      (hpassed : ∀ x ∈ passed, verdict p.target ⟨p.next⟩ (seen x) = none)
      (hr : verdict p.target ⟨p.next⟩ (seen r) = some result) :
    Way u p result { p.launched u n with
      inbox := rest
      journal := traces p.target ⟨p.next⟩ (passed ++ [r]) ++ (p.launched u n).journal
      buffer := filled p.buffer (passed ++ [r]) }

/-- **How a ping goes.** -/
theorem ping_way (u : Surroundings) (p : Prober) : Way u p (p.ping u).1 (p.ping u).2 := by
  rcases ping_cases u p with ⟨e, he, hp⟩ | ⟨n, hn, ht, hp⟩ | ⟨n, hn, -, hp⟩
  · rw [hp]
    exact .refused e he
  · rw [hp]
    exact .untold n hn ht
  · by_cases ht : p.timeout = 0
    · rw [hp, if_pos ht]
      exact .hurried n hn ht
    · rw [hp, if_neg ht]
      rcases verdict_cases p.target ⟨p.next⟩ (p.queued u) with
        hnone | ⟨passed, r, rest, result, hqueue, hpassed, hr⟩
      · rw [await_of_none (p.launched u n) hnone]
        exact .waited n hn ht hnone
      · rw [hqueue, await_of_verdict rest (p.launched u n) hpassed hr]
        exact .ended n hn ht passed r rest result hqueue hpassed hr

end PortEcho.Prober
