import PortEcho.Proofs.Prober.Ping
import PortEcho.Prober.Rounds

/-!
What rounds of pings are made of.

A turn goes one of a few ways, and each either only pauses or makes one trial, which is a ping with
its report. So between its pauses a run of rounds is a row of trials with consecutive numbers. A
trial that fails ends the run, and is the last one.
-/

namespace PortEcho

namespace Act

/-- A look for the request to stop or at the clock, or a nap. -/
def isPause : Act → Bool
  | .checked _ | .timed _ | .slept _ => true
  | _ => false

/-- Something was received or noted. -/
def isLook : Act → Bool
  | .received _ | .noted _ => true
  | _ => false

/-- The fault that ends a run of rounds at this act. -/
def failure? : Act → Option Fault
  | .sent _ _ (.error e) => some e
  | .received (.error e) =>
    match e.kind with
    | .wouldBlock | .timedOut | .interrupted => none
    | _ => some e
  | .wrote _ refusal => refusal
  | .flushed refusal => refusal
  | _ => none

end Act

namespace Prober

variable {u : Surroundings} {p q : Prober} {f : Flight} {target : Endpoint}

lemma isLook_of_mem_trace {r : Receipt} {a : Act} (h : a ∈ trace target f r) : a.isLook := by
  unfold trace at h
  rcases r with e | d
  · rw [List.mem_singleton.mp h]
    rfl
  · by_cases ha : answers target f d
    · by_cases hh : d.source.host = target.host
      all_goals
        simp [ha, hh] at h
        rcases h with rfl | rfl <;> rfl
    · simp [ha] at h
      rcases h with rfl | rfl <;> rfl

lemma isLook_of_mem_traces {rs : List Receipt} {a : Act} (h : a ∈ traces target f rs) :
    a.isLook := by
  obtain ⟨r, -, hr⟩ := List.mem_flatMap.mp h
  exact isLook_of_mem_trace hr

/-- A fault of receiving means that the time is up, or nothing, or that the ping fails. -/
lemma verdict_error_cases (target : Endpoint) (f : Flight) (e : Fault) :
    verdict target f (.error e) = some (.ok (.timeout f.number)) ∨
    verdict target f (.error e) = none ∨
    (verdict target f (.error e) = some (.error (.fault e)) ∧
      (Act.received (.error e)).failure? = some e) := by
  by_cases hblock : e.kind = .wouldBlock
  · exact .inl (by simp [verdict, hblock])
  by_cases htime : e.kind = .timedOut
  · exact .inl (by simp [verdict, htime])
  by_cases hinterrupted : e.kind = .interrupted
  · exact .inr (.inl (by simp [verdict, hinterrupted]))
  · refine .inr (.inr ⟨?_, ?_⟩)
    · simp [verdict]
    · simp [Act.failure?]

/-- An outcome has the number of the probe. -/
lemma number_of_verdict {r : Receipt} {o : Outcome} (h : verdict target f r = some (.ok o)) :
    o.number = f.number := by
  rcases r with e | d
  · rcases verdict_error_cases target f e with hv | hv | ⟨hv, -⟩
    · rw [hv] at h
      obtain rfl := Except.ok.inj (Option.some.inj h)
      rfl
    · rw [hv] at h
      cases h
    · rw [hv] at h
      cases h
  · rw [verdict_ok] at h
    split at h
    · obtain rfl := Except.ok.inj (Option.some.inj h)
      rfl
    · cases h

/-- A ping fails at the fault that was received. -/
lemma failure_of_verdict {r : Receipt} {b : Breakdown} (h : verdict target f r = some (.error b)) :
    ∃ e, b = .fault e ∧ .received r ∈ trace target f r ∧ (Act.received r).failure? = some e := by
  rcases r with e | d
  · rcases verdict_error_cases target f e with hv | hv | ⟨hv, hf⟩
    · rw [hv] at h
      cases h
    · rw [hv] at h
      cases h
    · rw [hv] at h
      obtain rfl := Except.error.inj (Option.some.inj h)
      exact ⟨e, rfl, List.mem_singleton.mpr rfl, hf⟩
  · rw [verdict_ok] at h
    split at h <;> cases h

/-- What a ping has done, apart from what it has taken from the queue. -/
structure Pinged (p q : Prober) (result : Except Breakdown Outcome) (given : Except Fault Nat)
    (looks : Journal) : Prop where
  journal : q.journal = looks ++ .sent p.target (Probe.build p.next) given :: p.journal
  target : q.target = p.target
  timeout : q.timeout = p.timeout
  next : q.next = p.next + 1
  onlyLooks : ∀ a ∈ looks, a.isLook
  outcome : ∀ o, result = .ok o → o.number = p.next
  sent : ∀ o, result = .ok o → ∃ n, given = .ok n
  failure : ∀ e, result = .error (.fault e) →
    ∃ a ∈ looks ++ [.sent p.target (Probe.build p.next) given], a.failure? = some e

/-- **What a ping does.** It hands over one probe with the next number, and then only looks. -/
theorem ping_spec (u : Surroundings) (p : Prober) :
    ∃ looks, Pinged p (p.ping u).2 (p.ping u).1 (u.send p.journal p.target (Probe.build p.next))
      looks := by
  have hway := ping_way u p
  generalize (p.ping u).1 = result, (p.ping u).2 = q at hway
  -- the first look is the note that the probe is out
  have hlooks : ∀ rs, ∀ a ∈ traces p.target ⟨p.next⟩ rs ++
      [.noted (.probeSent p.next (Probe.build p.next).length p.target)], a.isLook := by
    intro rs a ha
    rcases List.mem_append.mp ha with ha | ha
    · exact isLook_of_mem_traces ha
    · rw [List.mem_singleton.mp ha]
      rfl
  cases hway with
  | refused e he =>
    rw [he]
    refine ⟨[], rfl, rfl, rfl, rfl, List.forall_mem_nil _, nofun, nofun, fun e' h => ?_⟩
    obtain rfl := Breakdown.fault.inj (Except.error.inj h)
    exact ⟨_, List.mem_singleton.mpr rfl, rfl⟩
  | untold n hn _ =>
    rw [hn]
    exact ⟨[_], rfl, rfl, rfl, rfl, hlooks [], nofun, nofun, nofun⟩
  | hurried n hn _ =>
    rw [hn]
    refine ⟨[_], rfl, rfl, rfl, rfl, hlooks [], ?_, fun _ _ => ⟨n, rfl⟩, nofun⟩
    rintro o h
    obtain rfl := Except.ok.inj h
    rfl
  | waited n hn _ _ =>
    rw [hn]
    refine ⟨.received (.error .wouldBlock) :: (traces p.target ⟨p.next⟩ (p.queued u) ++ [_]), ?_,
      rfl, rfl, rfl, List.forall_mem_cons.mpr ⟨rfl, hlooks _⟩, ?_, fun _ _ => ⟨n, rfl⟩, nofun⟩
    · simp [launched, dispatched]
    · rintro o h
      obtain rfl := Except.ok.inj h
      rfl
  | ended n hn _ passed r rest _ _ _ hr =>
    rw [hn]
    refine ⟨traces p.target ⟨p.next⟩ (passed ++ [r]) ++ [_], ?_, rfl, rfl, rfl, hlooks _, ?_,
      fun _ _ => ⟨n, rfl⟩, ?_⟩
    · simp [launched, dispatched]
    · rintro o rfl
      exact number_of_verdict hr
    · rintro e rfl
      obtain ⟨e', he, hmem, hf⟩ := failure_of_verdict hr
      obtain rfl := Breakdown.fault.inj he
      refine ⟨_, ?_, hf⟩
      have hall : .received (seen r) ∈ traces p.target ⟨p.next⟩ (passed ++ [r]) := by
        simp [traces, hmem]
      exact List.mem_append_left _ (List.mem_append_left _ hall)

/-- A ping that breaks down without a fault has its probe out, and a deadline that the clock cannot
tell. -/
lemma ping_overflow (h : (p.ping u).1 = .error .overflow) :
    ∃ n, ¬ u.Tells p.journal p.timeout ∧ (p.ping u).2 = p.dispatched n := by
  have hway := ping_way u p
  generalize (p.ping u).1 = result, (p.ping u).2 = q at h hway
  cases hway with
  | untold n _ ht => exact ⟨n, ht, rfl⟩
  | ended n _ _ passed r rest _ _ _ hr =>
    subst h
    obtain ⟨e, hb, -⟩ := failure_of_verdict hr
    cases hb
  | refused | hurried | waited => cases h

/-- How a ping and its report ended. -/
inductive Fate
  /-- The ping broke down. -/
  | lost (b : Breakdown)
  /-- The line was refused. -/
  | unwritten (o : Outcome) (e : Fault)
  /-- The line was written, the flush refused. -/
  | unflushed (o : Outcome) (e : Fault)
  /-- The line is out. -/
  | told (o : Outcome)

namespace Fate

/-- What broke the trial off, if anything did. -/
def breakdown? : Fate → Option Breakdown
  | .lost b => some b
  | .unwritten _ e | .unflushed _ e => some (.fault e)
  | .told _ => none

def outcome? : Fate → Option Outcome
  | .lost _ => none
  | .unwritten o _ | .unflushed o _ | .told o => some o

/-- The acts of the report, the latest first. -/
def report : Fate → Journal
  | .lost _ => []
  | .unwritten o e => [.wrote o.line (some e)]
  | .unflushed o e => [.flushed (some e), .wrote o.line none]
  | .told o => [.flushed none, .wrote o.line none]

end Fate

/-- A ping with its report. -/
structure Trial where
  target : Endpoint
  number : UInt16
  /-- How many bytes of the probe were taken. -/
  given : Except Fault Nat
  looks : Journal
  fate : Fate

namespace Trial

def breakdown? (t : Trial) : Option Breakdown := t.fate.breakdown?

/-- The acts of the ping, the latest first. -/
def pinging (t : Trial) : Journal := t.looks ++ [.sent t.target (Probe.build t.number) t.given]

/-- All acts of the trial, the latest first. -/
def acts (t : Trial) : Journal := t.fate.report ++ t.pinging

structure Sound (t : Trial) : Prop where
  onlyLooks : ∀ a ∈ t.looks, a.isLook
  outcome : ∀ o, t.fate.outcome? = some o → o.number = t.number
  sent : ∀ o, t.fate.outcome? = some o → ∃ n, t.given = .ok n
  failure : ∀ e, t.breakdown? = some (.fault e) → ∃ a ∈ t.acts, a.failure? = some e

end Trial

/-- The prober has made one trial. -/
structure Tried (p q : Prober) (t : Trial) : Prop where
  sound : t.Sound
  aim : t.target = p.target
  number : t.number = p.next
  journal : q.journal = t.acts ++ p.journal
  target : q.target = p.target
  timeout : q.timeout = p.timeout
  next : q.next = p.next + 1

lemma Pinged.tried {result : Except Breakdown Outcome} {given : Except Fault Nat} {looks : Journal}
    (h : Pinged p q result given looks) (fate : Fate)
    (ho : ∀ o, fate.outcome? = some o → result = .ok o)
    (hf : ∀ e, fate.breakdown? = some (.fault e) →
      (∃ a ∈ fate.report, a.failure? = some e) ∨ result = .error (.fault e)) :
    Tried p { q with journal := fate.report ++ q.journal }
      ⟨p.target, p.next, given, looks, fate⟩ where
  sound := by
    refine ⟨h.onlyLooks, fun o hout => h.outcome o (ho o hout),
      fun o hout => h.sent o (ho o hout), fun e he => ?_⟩
    rcases hf e he with ⟨a, ha, hfail⟩ | hres
    · exact ⟨a, List.mem_append_left _ ha, hfail⟩
    · obtain ⟨a, ha, hfail⟩ := h.failure e hres
      exact ⟨a, List.mem_append_right _ ha, hfail⟩
  aim := rfl
  number := rfl
  journal := by simp [h.journal, Trial.acts, Trial.pinging]
  target := h.target
  timeout := h.timeout
  next := h.next

/-- How the next ping and its report end. -/
def fate (u : Surroundings) (p : Prober) : Fate :=
  match p.ping u with
  | (.error b, _) => .lost b
  | (.ok o, q) =>
    match u.write q.journal with
    | some e => .unwritten o e
    | none =>
      match u.flush (.wrote o.line none :: q.journal) with
      | some e => .unflushed o e
      | none => .told o

theorem pingAndReport_spec (u : Surroundings) (p : Prober) :
    ∃ t, (p.pingAndReport u).1 = t.breakdown? ∧ Tried p (p.pingAndReport u).2 t ∧
      t.fate = p.fate u ∧ t.given = u.send p.journal p.target (Probe.build p.next) := by
  obtain ⟨looks, h⟩ := ping_spec u p
  rcases hp : p.ping u with ⟨b | o, q⟩
  · rw [hp] at h
    have hpair : p.pingAndReport u = (some b, q) := by simp [pingAndReport, hp]
    have ht := h.tried (.lost b) nofun fun e' he => .inr (by rw [Option.some.inj he])
    rw [hpair]
    exact ⟨_, rfl, ht, by simp only [fate, hp], rfl⟩
  · rw [hp] at h
    have ho : ∀ o', some o = some o' → (.ok o : Except Breakdown Outcome) = .ok o' :=
      fun o' h => congrArg Except.ok (Option.some.inj h)
    have hpair : p.pingAndReport u =
        ((u.print o.line q.journal).1.map .fault,
          { q with journal := (u.print o.line q.journal).2 }) := by
      simp [pingAndReport, report, hp]
    rw [hpair]
    rcases u.print_cases o.line q.journal with ⟨e, hw, hx⟩ | ⟨e, hw, hf, hx⟩ | ⟨hw, hf, hx⟩
    · have ht := h.tried (.unwritten o e) ho fun e' he => by
        obtain rfl := Breakdown.fault.inj (Option.some.inj he)
        exact .inl ⟨_, List.mem_singleton.mpr rfl, rfl⟩
      rw [hx]
      exact ⟨_, rfl, ht, by simp only [fate, hp, hw], rfl⟩
    · have ht := h.tried (.unflushed o e) ho fun e' he => by
        obtain rfl := Breakdown.fault.inj (Option.some.inj he)
        exact .inl ⟨_, List.mem_cons_self, rfl⟩
      rw [hx]
      exact ⟨_, rfl, ht, by simp only [fate, hp, hw, hf], rfl⟩
    · have ht := h.tried (.told o) ho nofun
      rw [hx]
      exact ⟨_, rfl, ht, by simp only [fate, hp, hw, hf], rfl⟩

lemma pingAndReport_overflow (h : p.pingAndReport u = (some .overflow, q)) :
    ∃ n, ¬ u.Tells p.journal p.timeout ∧ q = p.dispatched n := by
  rcases hp : p.ping u with ⟨b | o, s⟩
  · have hpair : p.pingAndReport u = (some b, s) := by simp [pingAndReport, hp]
    obtain ⟨hb, rfl⟩ := Prod.mk.inj (hpair.symm.trans h)
    obtain rfl := Option.some.inj hb
    obtain ⟨n, ht, hs⟩ := ping_overflow (congrArg Prod.fst hp)
    exact ⟨n, ht, (congrArg Prod.snd hp).symm.trans hs⟩
  · -- a report meets faults only
    have hfst : (s.report u o).1.map Breakdown.fault = some .overflow := by
      simpa only [pingAndReport, hp] using congrArg Prod.fst h
    rcases hr : (s.report u o).1 with _ | e
    all_goals
      rw [hr] at hfst
      cases hfst

namespace Rounds

/-- Where a trial leaves a round that has `left` more after it. -/
def after (left : Nat) : Option Breakdown → RoundsPhase
  | none => .pinging left
  | some b => .ended (.error b)

/-- The ways that a turn can go. -/
inductive Turned (u : Surroundings) (count interval : Nat) : Rounds → Rounds → Prop
  /-- The request to stop has come before a round. -/
  | closed (p : Prober) (h : u.stop p.journal = true) :
    Turned u count interval ⟨p, .starting⟩ ⟨p.enter (.checked true), .ended (.ok ())⟩
  /-- A round begins. -/
  | opened (p : Prober) (h : u.stop p.journal = false) :
    Turned u count interval ⟨p, .starting⟩ ⟨p.enter (.checked false), .pinging count⟩
  /-- The request to stop has come within a round. -/
  | stopped (p : Prober) (left : Nat) (h : u.stop p.journal = true) :
    Turned u count interval ⟨p, .pinging (left + 1)⟩ ⟨p.enter (.checked true), .ended (.ok ())⟩
  | tried (p q : Prober) (left : Nat) (t : Trial) (h : u.stop p.journal = false)
      (hq : (p.enter (.checked false)).pingAndReport u = (t.breakdown?, q))
      (ht : Tried (p.enter (.checked false)) q t) :
    Turned u count interval ⟨p, .pinging (left + 1)⟩ ⟨q, after left t.breakdown?⟩
  /-- A round is over. -/
  | paused (p : Prober) (h : u.Tells p.journal interval) :
    Turned u count interval ⟨p, .pinging 0⟩
      ⟨p.enter (.timed (u.clock p.journal)), .resting (u.clock p.journal + interval)⟩
  /-- A round is over, and the clock cannot tell when the next one begins. -/
  | overflowed (p : Prober) (h : ¬ u.Tells p.journal interval) :
    Turned u count interval ⟨p, .pinging 0⟩
      ⟨p.enter (.timed (u.clock p.journal)), .ended (.error .overflow)⟩
  /-- The request to stop has come within a rest. -/
  | roused (p : Prober) (resume : Nat) (h : u.stop p.journal = true) :
    Turned u count interval ⟨p, .resting resume⟩ ⟨p.enter (.checked true), .starting⟩
  /-- A rest is over. -/
  | rested (p q : Prober) (resume : Nat) (h : u.stop p.journal = false)
      (hq : q = p.enter (.checked false)) (hnow : resume ≤ u.clock q.journal) :
    Turned u count interval ⟨p, .resting resume⟩
      ⟨q.enter (.timed (u.clock q.journal)), .starting⟩
  | napped (p q : Prober) (resume : Nat) (h : u.stop p.journal = false)
      (hq : q = p.enter (.checked false)) (hnow : u.clock q.journal < resume) :
    Turned u count interval ⟨p, .resting resume⟩
      ⟨(q.enter (.timed (u.clock q.journal))).enter
        (.slept (min (resume - u.clock q.journal) longestNap)), .resting resume⟩

variable {count interval : Nat} {r : Rounds}

/-- A turn with no request to stop before it makes the next ping of the round. -/
lemma turn_pinging (h : u.stop p.journal = false) (left : Nat) :
    turn u count interval ⟨p, .pinging (left + 1)⟩ =
      ⟨((p.enter (.checked false)).pingAndReport u).2,
        after left ((p.enter (.checked false)).pingAndReport u).1⟩ := by
  simp only [turn, next, check, h]
  rcases (p.enter (.checked false)).pingAndReport u with ⟨_ | b, q⟩ <;> rfl

/-- At the end of a round the prober goes to rest. -/
lemma turn_round (h : u.Tells p.journal interval) :
    turn u count interval ⟨p, .pinging 0⟩ =
      ⟨p.enter (.timed (u.clock p.journal)), .resting (u.clock p.journal + interval)⟩ := by
  simp [turn, finish, readClock, h]

lemma turn_round_of_overflow (h : ¬ u.Tells p.journal interval) :
    turn u count interval ⟨p, .pinging 0⟩ =
      ⟨p.enter (.timed (u.clock p.journal)), .ended (.error .overflow)⟩ := by
  simp [turn, finish, readClock, h]

theorem turned (u : Surroundings) (count interval : Nat) (h : r.result? = none) :
    Turned u count interval r (r.turn u count interval) := by
  obtain ⟨p, _ | ⟨_ | left⟩ | resume | result⟩ := r
  · rcases hs : u.stop p.journal with _ | _
    · have hturn : turn u count interval ⟨p, .starting⟩ =
          ⟨p.enter (.checked false), .pinging count⟩ := by simp [turn, start, check, hs]
      rw [hturn]
      exact .opened p hs
    · have hturn : turn u count interval ⟨p, .starting⟩ =
          ⟨p.enter (.checked true), .ended (.ok ())⟩ := by simp [turn, start, check, hs]
      rw [hturn]
      exact .closed p hs
  · by_cases ht : u.Tells p.journal interval
    · rw [turn_round ht]
      exact .paused p ht
    · rw [turn_round_of_overflow ht]
      exact .overflowed p ht
  · rcases hs : u.stop p.journal with _ | _
    · obtain ⟨t, hf, ht, -⟩ := pingAndReport_spec u (p.enter (.checked false))
      have hpair : (p.enter (.checked false)).pingAndReport u =
          (t.breakdown?, ((p.enter (.checked false)).pingAndReport u).2) := Prod.ext hf rfl
      rw [turn_pinging hs, hf]
      exact .tried p _ left t hs hpair ht
    · have hturn : turn u count interval ⟨p, .pinging (left + 1)⟩ =
          ⟨p.enter (.checked true), .ended (.ok ())⟩ := by simp [turn, next, check, hs]
      rw [hturn]
      exact .stopped p left hs
  · rcases hs : u.stop p.journal with _ | _
    · obtain ⟨q, hq⟩ : ∃ q, q = p.enter (.checked false) := ⟨_, rfl⟩
      by_cases hnow : resume ≤ u.clock q.journal
      · have hturn : turn u count interval ⟨p, .resting resume⟩ =
            ⟨q.enter (.timed (u.clock q.journal)), .starting⟩ := by
          simp [turn, rest, check, readClock, hs, ← hq, hnow]
        rw [hturn]
        exact .rested p q resume hs hq hnow
      · have hturn : turn u count interval ⟨p, .resting resume⟩ =
            ⟨(q.enter (.timed (u.clock q.journal))).enter
              (.slept (min (resume - u.clock q.journal) longestNap)), .resting resume⟩ := by
          simp [turn, rest, check, readClock, hs, ← hq, hnow]
        rw [hturn]
        exact .napped p q resume hs hq (Nat.lt_of_not_le hnow)
    · have hturn : turn u count interval ⟨p, .resting resume⟩ =
          ⟨p.enter (.checked true), .starting⟩ := by simp [turn, rest, check, hs]
      rw [hturn]
      exact .roused p resume hs
  · cases h

/-- Rounds come to a time that the clock cannot tell at the end of a round, or with a probe out. -/
lemma Turned.overflow {r r' : Rounds} (h : Turned u count interval r r')
    (hresult : r'.result? = some (.error .overflow)) :
    (∃ p, r = ⟨p, .pinging 0⟩ ∧ ¬ u.Tells p.journal interval ∧
      r'.prober = p.enter (.timed (u.clock p.journal))) ∨
    ∃ p left n, r = ⟨p, .pinging (left + 1)⟩ ∧ u.stop p.journal = false ∧
      ¬ u.Tells (.checked false :: p.journal) p.timeout ∧
      r'.prober = (p.enter (.checked false)).dispatched n := by
  cases h with
  | overflowed p h => exact .inl ⟨p, rfl, h, rfl⟩
  | tried p q left t hs hq _ =>
    have hbroken : t.breakdown? = some .overflow := by
      rcases ht : t.breakdown? with _ | b
      · rw [ht] at hresult
        cases hresult
      · rw [ht] at hresult
        obtain rfl := Except.error.inj (Option.some.inj hresult)
        rfl
    rw [hbroken] at hq
    obtain ⟨n, hlate, rfl⟩ := pingAndReport_overflow hq
    exact .inr ⟨p, left, n, rfl, hs, hlate, rfl⟩
  | closed | opened | stopped | paused | roused | rested | napped => cases hresult

/-- What every turn preserves, a run preserves. -/
lemma run_induction {P : Rounds → Prop} (hr : P r)
    (step : ∀ r r', P r → Turned u count interval r r' → P r') (n : Nat) :
    P (run u count interval n r) := by
  induction n generalizing r with
  | zero => exact hr
  | succ n ih =>
    unfold run
    rcases h : r.result? with _ | result
    · exact ih (step r _ hr (turned u count interval h))
    · exact hr

lemma run_of_ended {result : Except Breakdown Unit} (h : r.result? = some result) (n : Nat) :
    run u count interval n r = r := by
  cases n <;> simp [run, h]

lemma run_succ (h : r.result? = none) (n : Nat) :
    run u count interval (n + 1) r = run u count interval n (r.turn u count interval) := by
  simp [run, h]

lemma run_add (m n : Nat) (r : Rounds) :
    run u count interval (m + n) r = run u count interval n (run u count interval m r) := by
  induction m generalizing r with
  | zero => rw [Nat.zero_add, run]
  | succ m ih =>
    rcases h : r.result? with _ | result
    · rw [Nat.succ_add, run_succ h, run_succ h, ih]
    · simp only [run_of_ended h]

/-- Rounds that are over have come there by a turn. -/
lemma exists_last_turn {result : Except Breakdown Unit} (hr : r.result? = none) {n : Nat}
    (h : (run u count interval n r).result? = some result) :
    ∃ i < n, (run u count interval i r).result? = none ∧
      run u count interval n r = (run u count interval i r).turn u count interval := by
  induction n with
  | zero =>
    rw [run, hr] at h
    cases h
  | succ n ih =>
    rw [run_add] at h ⊢
    rcases hn : (run u count interval n r).result? with _ | result'
    · exact ⟨n, Nat.lt_succ_self n, hn, by rw [run_succ hn, run]⟩
    · rw [run_of_ended hn] at h ⊢
      obtain ⟨i, hi, hlast⟩ := ih h
      exact ⟨i, Nat.lt_succ_of_lt hi, hlast⟩

/-- What holds of the rounds until they are over always holds of them. -/
lemma forall_run {P : Rounds → Prop} {n : Nat} (hn : (run u count interval n r).result?.isSome)
    (h : ∀ i ≤ n, P (run u count interval i r)) (i : Nat) : P (run u count interval i r) := by
  rcases Nat.le_total i n with hi | hi
  · exact h i hi
  · obtain ⟨k, rfl⟩ := Nat.exists_eq_add_of_le hi
    obtain ⟨result, hresult⟩ := Option.isSome_iff_exists.mp hn
    rw [run_add, run_of_ended hresult]
    exact h n (Nat.le_refl n)

/-- Rounds that cannot rest are over with the next turn. -/
lemma run_of_overflow {n : Nat} (hn : run u count interval n r = ⟨p, .pinging 0⟩)
    (h : ¬ u.Tells p.journal interval) {m : Nat} (hm : n < m) :
    run u count interval m r =
      ⟨p.enter (.timed (u.clock p.journal)), .ended (.error .overflow)⟩ := by
  obtain ⟨k, rfl⟩ := Nat.exists_eq_add_of_lt hm
  rw [Nat.add_assoc, run_add, hn, run_succ rfl, turn_round_of_overflow h, run_of_ended rfl]

lemma run_starting_of_stop (h : u.stop p.journal = true) (n : Nat) :
    run u count interval (n + 1) ⟨p, .starting⟩ = ⟨p.enter (.checked true), .ended (.ok ())⟩ := by
  rw [run_succ rfl]
  simp only [turn, start, check, h]
  exact run_of_ended rfl n

lemma run_pinging_of_stop (h : u.stop p.journal = true) (left n : Nat) :
    run u count interval (n + 1) ⟨p, .pinging (left + 1)⟩ =
      ⟨p.enter (.checked true), .ended (.ok ())⟩ := by
  rw [run_succ rfl]
  simp only [turn, next, check, h]
  exact run_of_ended rfl n

lemma run_resting_of_stop (h : u.stop p.journal = true) (resume n : Nat) :
    run u count interval (n + 1) ⟨p, .resting resume⟩ =
      run u count interval n ⟨p.enter (.checked true), .starting⟩ := by
  rw [run_succ rfl]
  simp only [turn, rest, check, h]

/-- **Winding up.** Once the request to stop has come, and if it stays while the prober pauses,
rounds that are not over end within three turns, and only pause until then. They end well, unless a
round is over and the clock cannot tell when the next one would begin. -/
theorem winds_up (count interval : Nat)
    (h : ∀ js : Journal, (∀ a ∈ js, a.isPause) → u.stop (js ++ p.journal) = true)
    {phase : RoundsPhase} (hphase : ∀ result, phase ≠ .ended result) :
    ∃ (js : Journal) (result : Except Breakdown Unit), (∀ a ∈ js, a.isPause) ∧
      (∀ n, run u count interval (n + 3) ⟨p, phase⟩ =
        ⟨{ p with journal := js ++ p.journal }, .ended result⟩) ∧
      (result = .ok () ∨
        result = .error .overflow ∧ phase = .pinging 0 ∧ ¬ u.Tells p.journal interval) := by
  have hnow : u.stop p.journal = true := h [] (List.forall_mem_nil _)
  have hnext : ∀ a : Act, a.isPause → u.stop (p.enter a).journal = true :=
    fun a ha => h [a] (List.forall_mem_singleton.mpr ha)
  rcases phase with _ | ⟨_ | left⟩ | resume | result
  · exact ⟨[.checked true], _, by simp [Act.isPause], fun n => run_starting_of_stop hnow _,
      .inl rfl⟩
  · obtain ⟨a, ha⟩ : ∃ a, a = Act.timed (u.clock p.journal) := ⟨_, rfl⟩
    by_cases ht : u.Tells p.journal interval
    · have hlast : u.stop ((p.enter a).enter (.checked true)).journal = true :=
        h [.checked true, a] (by simp [ha, Act.isPause])
      refine ⟨[.checked true, .checked true, a], _, by simp [ha, Act.isPause], fun n => ?_,
        .inl rfl⟩
      rw [run_succ rfl, turn_round ht, ← ha, run_resting_of_stop (hnext a (by rw [ha]; rfl)),
        run_starting_of_stop hlast]
      rfl
    · refine ⟨[a], _, by simp [ha, Act.isPause], fun n => ?_, .inr ⟨rfl, rfl, ht⟩⟩
      rw [run_succ rfl, turn_round_of_overflow ht, ← ha, run_of_ended rfl]
      rfl
  · exact ⟨[.checked true], _, by simp [Act.isPause], fun n => run_pinging_of_stop hnow left _,
      .inl rfl⟩
  · refine ⟨[.checked true, .checked true], _, by simp [Act.isPause], fun n => ?_, .inl rfl⟩
    rw [run_resting_of_stop hnow, run_starting_of_stop (hnext _ rfl)]
    rfl
  · exact absurd rfl (hphase result)

end Rounds

end Prober

end PortEcho
