import Mathlib.Algebra.Ring.Nat
import PortEcho.Proofs.Prober.Shutdown

/-!
Rounds as pings that follow each other.

Where nothing fails and what comes in depends on the pings alone, rounds that are asked to stop
after a number of lines do what as many pings do, one after the other, and print a line for each.
How many pings make a round, and how long the rests are, does not show, as long as the clock can
tell when each rest is over. Rounds that come to a rest of which it cannot tell that break down.
-/

namespace PortEcho

/-- The act of a ping. -/
def Act.isOfPing : Act → Bool
  | .sent .. | .received _ | .noted _ => true
  | _ => false

/-- The acts of the pings. -/
def Journal.pinging (j : Journal) : Journal := j.filter Act.isOfPing

namespace Surroundings

/-- The clock does not go back, and a nap is no shorter than it is meant to be. -/
structure KeepsTime (u : Surroundings) : Prop where
  mono : ∀ a j, u.clock j ≤ u.clock (a :: j)
  nap : ∀ m j, u.clock j + m ≤ u.clock (.slept m :: j)

/-- A look at the clock and a nap after it bring the clock on by the nap. -/
lemma KeepsTime.le_clock_nap {u : Surroundings} (h : u.KeepsTime) (m now : Nat)
    (j : Journal) : u.clock j + m ≤ u.clock (.slept m :: .timed now :: j) :=
  Nat.le_trans (Nat.add_le_add_right (h.mono (.timed now) j) m) (h.nap m (.timed now :: j))

/-- The output and the socket refuse nothing, and datagrams come in for each ping, whatever else is
done between the pings. -/
structure Gentle (u : Surroundings) : Prop where
  write : ∀ j, u.write j = none
  flush : ∀ j, u.flush j = none
  send : ∀ j dest bytes, u.send j dest bytes = .ok bytes.length
  datagrams : ∀ j, ∀ r ∈ u.arrivals j, ∃ d, r = .ok d
  paced : ∀ i j : Journal, i.pinging = j.pinging → u.arrivals i = u.arrivals j

end Surroundings

namespace Prober

/-- So many pings, one after the other, and how they ended. -/
def pings (u : Surroundings) (p : Prober) : Nat → List (Except Breakdown Outcome) × Prober
  | 0 => ([], p)
  | n + 1 =>
    let (results, q) := pings u p n
    (results ++ [(q.ping u).1], (q.ping u).2)

/-- The probers differ at most in what they have done between their pings, and in what their
buffers hold. -/
structure Alike (p q : Prober) : Prop where
  target : p.target = q.target
  timeout : p.timeout = q.timeout
  next : p.next = q.next
  inbox : p.inbox = q.inbox
  pinging : p.journal.pinging = q.journal.pinging

namespace Alike

variable {u : Surroundings} {p q : Prober} {f : Flight}

lemma refl (p : Prober) : Alike p p := ⟨rfl, rfl, rfl, rfl, rfl⟩

/-- What is no act of a ping may come in between. -/
lemma enter (h : Alike p q) {a : Act} (ha : a.isOfPing = false) : Alike (p.enter a) q :=
  ⟨h.target, h.timeout, h.next, h.inbox, by
    rw [← h.pinging]
    exact List.filter_cons_of_neg (by simp [ha])⟩

/-- The same queue and the same acts of a ping keep them alike, whatever the buffers hold. -/
lemma append (h : Alike p q) (rs : List Receipt) (j : Journal) (b c : Buffer bufferSize) :
    Alike { p with inbox := rs, journal := j ++ p.journal, buffer := b }
      { q with inbox := rs, journal := j ++ q.journal, buffer := c } where
  target := h.target
  timeout := h.timeout
  next := h.next
  inbox := rfl
  pinging := by
    unfold Journal.pinging
    rw [List.filter_append, List.filter_append]
    exact congrArg _ h.pinging

lemma await (h : Alike p q) (f : Flight) (rs : List Receipt) :
    (p.await f rs).1 = (q.await f rs).1 ∧ Alike (p.await f rs).2 (q.await f rs).2 := by
  have htraces : ∀ xs, traces q.target f xs = traces p.target f xs := by
    intro xs
    rw [h.target]
  rcases verdict_cases p.target f rs with hnone | ⟨passed, r, rest, result, rfl, hpassed, hr⟩
  · rw [await_of_none p hnone, await_of_none q (h.target ▸ hnone), htraces]
    exact ⟨rfl, h.append [] (.received (.error .wouldBlock) :: traces p.target f rs) _ _⟩
  · rw [await_of_verdict rest p hpassed hr,
      await_of_verdict rest q (h.target ▸ hpassed) (h.target ▸ hr), htraces]
    exact ⟨rfl, h.append rest (traces p.target f (passed ++ [r])) _ _⟩

/-- Probers that are alike get the same outcome, and stay alike, while the clock can tell their
deadlines. -/
lemma ping (hu : u.Gentle) (h : Alike p q) (hp : u.Tells p.journal p.timeout)
    (hq : u.Tells q.journal q.timeout) :
    (p.ping u).1 = (q.ping u).1 ∧ Alike (p.ping u).2 (q.ping u).2 := by
  have hlaunch : ∀ x : Prober, (x.launch u).2.journal =
      .noted (.probeSent x.next (Probe.build x.next).length x.target) ::
        .sent x.target (Probe.build x.next) (.ok (Probe.build x.next).length) :: x.journal := by
    intro x
    rw [launch_eq, hu.send]
    rfl
  have hjournal : (p.launch u).2.journal.pinging = (q.launch u).2.journal.pinging := by
    rw [hlaunch, hlaunch, ← h.target, ← h.next]
    exact congrArg (_ :: _ :: ·) h.pinging
  have hqueue : p.queued u = q.queued u := by
    unfold queued
    rw [h.inbox, hu.paced _ _ hjournal]
  have halike : Alike (p.launched u (Probe.build p.next).length)
      (q.launched u (Probe.build q.next).length) := by
    unfold launched dispatched
    rw [← hqueue, ← h.target, ← h.timeout, ← h.next]
    exact ⟨rfl, rfl, rfl, rfl, congrArg (_ :: _ :: ·) h.pinging⟩
  rw [ping_of_sent (hu.send ..) hp, ping_of_sent (hu.send ..) hq, ← h.timeout, ← h.next, ← hqueue]
  by_cases ht : p.timeout = 0
  · rw [if_pos ht, if_pos ht]
    exact ⟨rfl, halike⟩
  · rw [if_neg ht, if_neg ht]
    exact halike.await _ _

end Alike

section outcomes

variable {u : Surroundings} {p : Prober}

/-- Where only datagrams come in, a ping replies or times out, and leaves datagrams. -/
lemma ping_of_gentle (hu : u.Gentle) (hp : ∀ r ∈ p.inbox, ∃ d, r = .ok d)
    (ht : u.Tells p.journal p.timeout) :
    ∃ o, (p.ping u).1 = .ok o ∧ o.number = p.next ∧
      ∀ r ∈ (p.ping u).2.inbox, ∃ d, r = .ok d := by
  obtain ⟨looks, hspec⟩ := ping_spec u p
  have hqueue : ∀ r ∈ p.queued u, ∃ d, r = .ok d := by
    intro r hr
    rcases List.mem_append.mp hr with hr | hr
    · exact hp r hr
    · exact hu.datagrams _ r hr
  have hok : ∃ o, (p.ping u).1 = .ok o ∧ ∀ r ∈ (p.ping u).2.inbox, ∃ d, r = .ok d := by
    have hway := ping_way u p
    generalize (p.ping u).1 = result, (p.ping u).2 = q at hway
    cases hway with
    | refused e he =>
      rw [hu.send] at he
      cases he
    | untold n _ hlate => exact absurd ht hlate
    | hurried n _ _ => exact ⟨_, rfl, hqueue⟩
    | waited n _ _ _ => exact ⟨_, rfl, List.forall_mem_nil _⟩
    | ended n _ _ passed r rest _ hsplit _ hr =>
      rw [hsplit] at hqueue
      have hrest : ∀ x ∈ rest, ∃ d, x = .ok d := fun x hx => hqueue x (by simp [hx])
      obtain ⟨d, rfl⟩ := hqueue r (by simp)
      change verdict p.target ⟨p.next⟩ (.ok (d.cut bufferSize)) = _ at hr
      rw [verdict_ok] at hr
      split at hr
      · exact ⟨_, (Option.some.inj hr).symm, hrest⟩
      · cases hr
  obtain ⟨o, ho, hinbox⟩ := hok
  exact ⟨o, ho, hspec.outcome o ho, hinbox⟩

/-- Pings keep their aim and their timeout, and use up a number each. -/
lemma pings_spec (u : Surroundings) (p : Prober) (n : Nat) :
    (pings u p n).2.target = p.target ∧ (pings u p n).2.timeout = p.timeout ∧
      (pings u p n).2.next = p.next + .ofNat n := by
  induction n with
  | zero => exact ⟨rfl, rfl, by simp [pings]⟩
  | succ n ih =>
    obtain ⟨htarget, htimeout, hnext⟩ := ih
    obtain ⟨looks, h⟩ := ping_spec u (pings u p n).2
    refine ⟨h.target.trans htarget, h.timeout.trans htimeout, ?_⟩
    rw [pings, h.next, hnext, UInt16.ofNat_add, UInt16.add_assoc]
    rfl

/-- Pings where only datagrams come in have outcomes with consecutive numbers. -/
lemma pings_of_gentle (hu : u.Gentle) (hp : ∀ r ∈ p.inbox, ∃ d, r = .ok d) {n : Nat}
    (ht : ∀ i < n, u.Tells (pings u p i).2.journal p.timeout) :
    ∃ os : List Outcome, (pings u p n).1 = os.map .ok ∧
      os.map Outcome.number = (List.range n).map (fun i => p.next + .ofNat i) ∧
      ∀ r ∈ (pings u p n).2.inbox, ∃ d, r = .ok d := by
  induction n with
  | zero => exact ⟨[], rfl, rfl, hp⟩
  | succ n ih =>
    obtain ⟨os, hos, hnumbers, hinbox⟩ := ih fun i hi => ht i (Nat.lt_succ_of_lt hi)
    obtain ⟨-, htimeout, hnext⟩ := pings_spec u p n
    have hlast : u.Tells (pings u p n).2.journal (pings u p n).2.timeout := by
      rw [htimeout]
      exact ht n (Nat.lt_succ_self n)
    obtain ⟨o, ho, hnumber, hinbox'⟩ := ping_of_gentle hu hinbox hlast
    refine ⟨os ++ [o], ?_, ?_, hinbox'⟩
    · simp only [pings, hos, ho, List.map_append, List.map_singleton]
    · rw [List.map_append, hnumbers, List.range_succ, List.map_append, List.map_singleton,
        List.map_singleton, hnumber, hnext]

end outcomes

/-- A ping prints nothing. -/
lemma output_ping (u : Surroundings) (p : Prober) :
    (p.ping u).2.journal.lines = p.journal.lines ∧
      (p.ping u).2.journal.flushes = p.journal.flushes := by
  constructor
  · have hview := view_ping (fun a ha => (Act.silent_of_isLook ha).line) u p
    exact hview.trans (List.append_nil _)
  · obtain ⟨looks, h⟩ := ping_spec u p
    have hflushes : looks.flushes = 0 :=
      List.countP_eq_zero.mpr fun a ha => by
        simp [(Act.silent_of_isLook (h.onlyLooks a ha)).flush]
    rw [h.journal, Journal.flushes_append, hflushes, Journal.flushes_cons]
    simp [Act.isFlush]

namespace Rounds

/-- If a ping comes next, the clock can tell its deadline. -/
def DeadlineTold (u : Surroundings) : Rounds → Prop
  | ⟨p, .pinging (_ + 1)⟩ =>
    u.stop p.journal = false → u.Tells (.checked false :: p.journal) p.timeout
  | _ => True

/-- If a rest comes next, the clock can tell its end. -/
def RestTold (u : Surroundings) (interval : Nat) : Rounds → Prop
  | ⟨p, .pinging 0⟩ => u.Tells p.journal interval
  | _ => True

instance (u : Surroundings) : DecidablePred (DeadlineTold u)
  | ⟨_, .pinging (_ + 1)⟩ => inferInstanceAs (Decidable (_ → _))
  | ⟨_, .pinging 0⟩ | ⟨_, .starting⟩ | ⟨_, .resting _⟩ | ⟨_, .ended _⟩ =>
    inferInstanceAs (Decidable True)

instance (u : Surroundings) (interval : Nat) : DecidablePred (RestTold u interval)
  | ⟨_, .pinging 0⟩ => inferInstanceAs (Decidable (Surroundings.Tells ..))
  | ⟨_, .pinging (_ + 1)⟩ | ⟨_, .starting⟩ | ⟨_, .resting _⟩ | ⟨_, .ended _⟩ =>
    inferInstanceAs (Decidable True)

end Rounds

/-- Rounds of `count` pings may stand here after so many of them: there are whole rounds before
this one, and the pings that this one has left make one more. -/
def Aligned (count pings : Nat) : RoundsPhase → Prop
  | .pinging left => ∃ rounds, pings + left = (rounds + 1) * count
  | .starting | .resting _ => ∃ rounds, pings = rounds * count
  | .ended _ => False

lemma Aligned.ne_ended {count pings : Nat} {phase : RoundsPhase} (h : Aligned count pings phase)
    (result : Except Breakdown Unit) : phase ≠ .ended result := by
  rintro rfl
  exact h

/-- A prober in rounds that `p` has begun does what the pings of `p` do, and has printed their
outcomes. -/
structure Follows (u : Surroundings) (p : Prober) (os : List Outcome) (q : Prober) : Prop where
  outcomes : (pings u p os.length).1 = os.map .ok
  alike : Alike q (pings u p os.length).2
  lines : q.journal.lines = p.journal.lines ++ os.map Outcome.line
  flushes : q.journal.flushes = p.journal.flushes + os.length

/-- Rounds that `p` has begun come to the end of a round with these outcomes, and the clock cannot
tell when the next one would begin. -/
def Stuck (u : Surroundings) (count interval : Nat) (p : Prober) (os : List Outcome) : Prop :=
  ∃ n q, Rounds.run u count interval n ⟨p, .starting⟩ = ⟨q, .pinging 0⟩ ∧
    ¬ u.Tells q.journal interval ∧ Aligned count os.length (.pinging 0) ∧ Follows u p os q

namespace Follows

variable {u : Surroundings} {p q : Prober} {os : List Outcome}

lemma start (u : Surroundings) (p : Prober) : Follows u p [] p :=
  ⟨rfl, Alike.refl p, by simp, rfl⟩

lemma pause (h : Follows u p os q) {a : Act} (ha : a.isPause) : Follows u p os (q.enter a) := by
  have hping : a.isOfPing = false := by
    cases a with
    | checked | timed | slept => rfl
    | _ => cases ha
  obtain ⟨hline, -, -, hflush, -⟩ := Act.silent_of_isPause ha
  refine ⟨h.outcomes, h.alike.enter hping, ?_, ?_⟩
  · rw [← h.lines]
    simp [Prober.enter, hline]
  · rw [← h.flushes]
    simp [Prober.enter, hflush]

lemma pauses (h : Follows u p os q) {js : Journal} (hjs : ∀ a ∈ js, a.isPause) :
    Follows u p os { q with journal := js ++ q.journal } := by
  induction js with
  | nil => exact h
  | cons a js ih =>
    obtain ⟨ha, hjs⟩ := List.forall_mem_cons.mp hjs
    exact (ih hjs).pause ha

/-- One ping more, and its line. -/
lemma tried (hu : u.Gentle) (hp : ∀ r ∈ p.inbox, ∃ d, r = .ok d)
    (ht : ∀ i < os.length + 1, u.Tells (pings u p i).2.journal p.timeout)
    (hq : u.Tells q.journal q.timeout) (h : Follows u p os q) :
    ∃ o q', q.pingAndReport u = (none, q') ∧ Follows u p (os ++ [o]) q' := by
  obtain ⟨-, -, -, hinbox⟩ := pings_of_gentle hu hp fun i hi => ht i (Nat.lt_succ_of_lt hi)
  have hlast : u.Tells (pings u p os.length).2.journal (pings u p os.length).2.timeout := by
    rw [(pings_spec u p os.length).2.1]
    exact ht _ (Nat.lt_succ_self _)
  obtain ⟨o, ho, -, -⟩ := ping_of_gentle hu hinbox hlast
  obtain ⟨hsame, halike⟩ := h.alike.ping hu hq hlast
  obtain ⟨hlines, hflushes⟩ := output_ping u q
  have hprint : u.print o.line (q.ping u).2.journal =
      (none, .flushed none :: .wrote o.line none :: (q.ping u).2.journal) := by
    simp [Surroundings.print, hu.write, hu.flush]
  have hpair : q.ping u = (.ok o, (q.ping u).2) := Prod.ext (hsame.trans ho) rfl
  refine ⟨o, ((q.ping u).2.enter (.wrote o.line none)).enter (.flushed none), ?_, ?_, ?_, ?_, ?_⟩
  · rw [pingAndReport, hpair]
    simp only [report, hprint]
    rfl
  · simp only [List.length_append, List.length_singleton, pings, h.outcomes, ho, List.map_append,
      List.map_singleton]
  · simp only [List.length_append, List.length_singleton]
    exact (halike.enter rfl).enter rfl
  · simp [Prober.enter, Act.line?, hlines, h.lines]
  · simp [Prober.enter, Act.isFlush, hflushes, h.flushes, Nat.add_assoc]

/-- With the request due after `k` lines, it has come just if `k` pings are over. -/
lemma stop_iff {k : Nat}
    (hstop : ∀ j, u.stop j = decide (p.journal.lines.length + k ≤ j.lines.length))
    (h : Follows u p os q) : u.stop q.journal = decide (k ≤ os.length) := by
  rw [hstop, h.lines, List.length_append, List.length_map]
  exact decide_eq_decide.mpr (Nat.add_le_add_iff_left)

lemma unstopped {k : Nat}
    (hstop : ∀ j, u.stop j = decide (p.journal.lines.length + k ≤ j.lines.length))
    (hk : os.length < k) (h : Follows u p os q) : u.stop q.journal = false := by
  rw [h.stop_iff hstop]
  exact decide_eq_false (Nat.not_le_of_lt hk)

section rounds

variable {count interval k : Nat}

/-- A rest comes to its end. -/
lemma rest_over (count interval : Nat) (hu : u.KeepsTime)
    (hstop : ∀ j, u.stop j = decide (p.journal.lines.length + k ≤ j.lines.length))
    (hk : os.length < k) (resume : Nat) (h : Follows u p os q) :
    ∃ n q', Rounds.run u count interval n ⟨q, .resting resume⟩ = ⟨q', .starting⟩ ∧
      Follows u p os q' := by
  -- each nap brings the clock nearer to the end of the rest
  induction hd : resume - u.clock q.journal using Nat.strongRecOn generalizing q with
  | ind d ih =>
    have hnot : u.stop q.journal = false := h.unstopped hstop hk
    have hturn := Rounds.turned u count interval (r := ⟨q, .resting resume⟩) rfl
    generalize hr : Rounds.turn u count interval ⟨q, .resting resume⟩ = r' at hturn
    cases hturn with
    | roused _ _ hs =>
      rw [hnot] at hs
      cases hs
    | rested _ q₁ _ _ hq₁ _ =>
      have hq : Follows u p os q₁ := hq₁ ▸ h.pause rfl
      refine ⟨1, q₁.enter (.timed (u.clock q₁.journal)), ?_, hq.pause rfl⟩
      rw [Rounds.run_succ rfl, hr, Rounds.run]
    | napped _ q₁ _ _ hq₁ hnow =>
      obtain ⟨now, hn⟩ : ∃ now, now = u.clock q₁.journal := ⟨_, rfl⟩
      obtain ⟨nap, hnap⟩ : ∃ nap, nap = min (resume - now) longestNap := ⟨_, rfl⟩
      rw [← hn] at hnow
      rw [← hn, ← hnap] at hr
      have hbefore : u.clock q.journal ≤ now := by
        rw [hn, hq₁]
        exact hu.mono ..
      have hafter : now + nap ≤ u.clock (.slept nap :: .timed now :: q₁.journal) := by
        rw [hn]
        exact hu.le_clock_nap nap _ q₁.journal
      have hpos : 0 < nap := by
        rw [hnap, longestNap]
        omega
      have hfollows : Follows u p os ((q₁.enter (.timed now)).enter (.slept nap)) := by
        subst hq₁
        exact ((h.pause (a := .checked false) rfl).pause (a := .timed _) rfl).pause rfl
      have hless : resume - u.clock ((q₁.enter (.timed now)).enter (.slept nap)).journal < d := by
        have hj : ((q₁.enter (.timed now)).enter (.slept nap)).journal =
          .slept nap :: .timed now :: q₁.journal := rfl
        rw [hj]
        omega
      obtain ⟨n, q', hrun, h'⟩ := ih _ hless hfollows rfl
      refine ⟨n + 1, q', ?_, h'⟩
      rw [Rounds.run_succ rfl, hr, hrun]

/-- Before the request, rounds that are not over come to their next ping, or to a rest of which the
clock cannot tell the end. -/
lemma next_ping (interval : Nat) (hu : u.KeepsTime) (hcount : 0 < count)
    (hstop : ∀ j, u.stop j = decide (p.journal.lines.length + k ≤ j.lines.length))
    (hk : os.length < k) {phase : RoundsPhase} (hphase : Aligned count os.length phase)
    (h : Follows u p os q) :
    (∃ n q' left, Rounds.run u count interval n ⟨q, phase⟩ = ⟨q', .pinging (left + 1)⟩ ∧
      Aligned count os.length (.pinging (left + 1)) ∧ Follows u p os q') ∨
    (phase = .pinging 0 ∧ ¬ u.Tells q.journal interval) := by
  have hopen : ∀ q c, os.length = c * count → Follows u p os q → ∃ n q' left,
      Rounds.run u count interval n ⟨q, .starting⟩ = ⟨q', .pinging (left + 1)⟩ ∧
        Aligned count os.length (.pinging (left + 1)) ∧ Follows u p os q' := by
    intro q c hc h
    have hnot : u.stop q.journal = false := h.unstopped hstop hk
    obtain ⟨left, rfl⟩ := Nat.exists_eq_succ_of_ne_zero (Nat.ne_of_gt hcount)
    refine ⟨1, _, left, ?_, ⟨c, by rw [hc, Nat.succ_mul]⟩, h.pause (a := .checked false) rfl⟩
    rw [Rounds.run_succ rfl, Rounds.run]
    simp [Rounds.turn, Rounds.start, check, hnot]
  have hrest : ∀ q resume c, os.length = c * count → Follows u p os q → ∃ n q' left,
      Rounds.run u count interval n ⟨q, .resting resume⟩ = ⟨q', .pinging (left + 1)⟩ ∧
        Aligned count os.length (.pinging (left + 1)) ∧ Follows u p os q' := by
    intro q resume c hc h
    obtain ⟨n, q₁, hrun, h₁⟩ := rest_over count interval hu hstop hk resume h
    obtain ⟨m, q₂, left, hrun', h₂⟩ := hopen q₁ c hc h₁
    exact ⟨n + m, q₂, left, by rw [Rounds.run_add, hrun, hrun'], h₂⟩
  rcases phase with _ | ⟨_ | left⟩ | resume | result
  · obtain ⟨c, hc⟩ := hphase
    exact .inl (hopen q c hc h)
  · by_cases ht : u.Tells q.journal interval
    · obtain ⟨c, hc⟩ := hphase
      obtain ⟨n, q', left, hrun, h'⟩ := hrest (q.enter (.timed (u.clock q.journal)))
        (u.clock q.journal + interval) (c + 1) hc (h.pause rfl)
      refine .inl ⟨n + 1, q', left, ?_, h'⟩
      rw [Rounds.run_succ rfl, Rounds.turn_round ht]
      exact hrun
    · exact .inr ⟨rfl, ht⟩
  · exact .inl ⟨0, q, left, rfl, hphase, h⟩
  · obtain ⟨c, hc⟩ := hphase
    exact .inl (hrest q resume c hc h)
  · exact hphase.elim

/-- Rounds make as many pings as there are lines before the request, unless they break down. -/
lemma pings_made (interval : Nat) (hu : u.Gentle) (ht : u.KeepsTime)
    (hp : ∀ r ∈ p.inbox, ∃ d, r = .ok d) (hcount : 0 < count)
    (hstop : ∀ j, u.stop j = decide (p.journal.lines.length + k ≤ j.lines.length))
    (hpings : ∀ i < k, u.Tells (pings u p i).2.journal p.timeout)
    (hdeadlines : ∀ i, Rounds.DeadlineTold u (Rounds.run u count interval i ⟨p, .starting⟩))
    {m : Nat} (hm : m ≤ k) :
    (∃ n q phase os, Rounds.run u count interval n ⟨p, .starting⟩ = ⟨q, phase⟩ ∧
      Aligned count os.length phase ∧ os.length = m ∧ Follows u p os q) ∨
    ∃ os, os.length ≤ k ∧ Stuck u count interval p os := by
  induction m with
  | zero => exact .inl ⟨0, p, .starting, [], rfl, ⟨0, (Nat.zero_mul count).symm⟩, rfl, start u p⟩
  | succ m ih =>
    rcases ih (Nat.le_of_succ_le hm) with ⟨n, q, phase, os, hrun, hphase, hlen, h⟩ | hstuck
    · have hk : os.length < k := by omega
      rcases next_ping interval ht hcount hstop hk hphase h with
        ⟨n', q₁, left, hrun', hphase', h₁⟩ | ⟨rfl, hlate⟩
      · have hreach : Rounds.run u count interval (n + n') ⟨p, .starting⟩ =
            ⟨q₁, .pinging (left + 1)⟩ := by rw [Rounds.run_add, hrun, hrun']
        have hnot : u.stop q₁.journal = false := h₁.unstopped hstop hk
        have hdeadline := hdeadlines (n + n')
        rw [hreach] at hdeadline
        obtain ⟨o, q₂, hping, h₂⟩ := (h₁.pause (a := .checked false) rfl).tried hu hp
          (fun i hi => hpings i (by omega)) (hdeadline hnot)
        have hturn : Rounds.turn u count interval ⟨q₁, .pinging (left + 1)⟩ =
            ⟨q₂, .pinging left⟩ := by
          simp [Rounds.turn, Rounds.next, check, hnot, hping]
        obtain ⟨c, hc⟩ := hphase'
        refine .inl ⟨n + n' + 1, q₂, .pinging left, os ++ [o], ?_, ⟨c, ?_⟩, by simp [hlen], h₂⟩
        · rw [Rounds.run_add, hreach, Rounds.run_succ rfl, hturn, Rounds.run]
        · rw [List.length_append, List.length_singleton, ← hc]
          omega
      · obtain ⟨c, hc⟩ := hphase
        exact .inr ⟨os, Nat.le_of_lt hk, n, q, hrun, hlate, ⟨c, hc⟩, h⟩
    · exact .inr hstuck

/-- Once the request has come the rounds end, unless they break down at the end of a round. -/
lemma rounds_over {n : Nat}
    (hstop : ∀ j, u.stop j = decide (p.journal.lines.length + k ≤ j.lines.length))
    (hk : k ≤ os.length) {phase : RoundsPhase}
    (hrun : Rounds.run u count interval n ⟨p, .starting⟩ = ⟨q, phase⟩)
    (hphase : Aligned count os.length phase) (h : Follows u p os q) :
    (∃ q', (∀ m, n + 3 ≤ m →
        Rounds.run u count interval m ⟨p, .starting⟩ = ⟨q', .ended (.ok ())⟩) ∧
      Follows u p os q') ∨
    Stuck u count interval p os := by
  have hstops : ∀ js : Journal, (∀ a ∈ js, a.isPause) → u.stop (js ++ q.journal) = true := by
    intro js hjs
    refine ((h.pauses hjs).stop_iff hstop).trans ?_
    exact decide_eq_true hk
  obtain ⟨js, result, hjs, hover, hresult⟩ :=
    Rounds.winds_up count interval hstops hphase.ne_ended
  rcases hresult with rfl | ⟨-, rfl, hlate⟩
  · refine .inl ⟨_, fun m hm => ?_, h.pauses hjs⟩
    obtain ⟨extra, rfl⟩ := Nat.exists_eq_add_of_le hm
    rw [Nat.add_assoc, Rounds.run_add, hrun, Nat.add_comm, hover]
  · obtain ⟨c, hc⟩ := hphase
    exact .inr ⟨n, q, hrun, hlate, ⟨c, hc⟩, h⟩

end rounds

end Follows

/-- What shows of a prober. -/
structure Showing where
  lines : List String
  flushes : Nat
  departures : List (Endpoint × Bytes)
  notices : List Notice
  next : UInt16
  inbox : List Receipt

def showing (p : Prober) : Showing where
  lines := p.journal.lines
  flushes := p.journal.flushes
  departures := p.journal.departures
  notices := p.journal.notices
  next := p.next
  inbox := p.inbox

/-- Outcomes with consecutive numbers make lines with these numbers. -/
lemma lines_of_numbers {os : List Outcome} {first : UInt16}
    (h : os.map Outcome.number = (List.range os.length).map fun i => first + .ofNat i) :
    os.map Outcome.line = os.mapIdx fun i o =>
      toString (first + .ofNat i) ++ (if o.isReply then ": ping" else ": ---") ++ "\n" := by
  apply List.ext_getElem
  · simp
  · intro i hi _
    have hlen : i < os.length := by simpa using hi
    have hnumber : os[i].number = first + .ofNat i := by
      have hget := congrArg (fun l => l[i]?) h
      simpa [hlen] using hget
    simp [Outcome.line, hnumber]

lemma departures_pinging (j : Journal) : j.pinging.departures = j.departures := by
  refine Journal.view_filter (fun a ha => ?_) j
  cases a with
  | sent | received | noted => cases ha
  | _ => rfl

lemma notices_pinging (j : Journal) : j.pinging.notices = j.notices := by
  refine Journal.view_filter (fun a ha => ?_) j
  cases a with
  | sent | received | noted => cases ha
  | _ => rfl

/-- What shows of `p` after as many pings as there are outcomes, each of them printed. -/
def reported (u : Surroundings) (p : Prober) (os : List Outcome) : Showing where
  lines := p.journal.lines ++ os.mapIdx fun i o =>
    toString (p.next + .ofNat i) ++ (if o.isReply then ": ping" else ": ---") ++ "\n"
  flushes := p.journal.flushes + os.length
  departures := (pings u p os.length).2.journal.departures
  notices := (pings u p os.length).2.journal.notices
  next := (pings u p os.length).2.next
  inbox := (pings u p os.length).2.inbox

lemma length_pings (u : Surroundings) (p : Prober) (n : Nat) : (pings u p n).1.length = n := by
  induction n with
  | zero => rfl
  | succ n ih => rw [pings, List.length_append, ih, List.length_singleton]

/-- The first pings go as they do without those after them. -/
lemma take_pings (u : Surroundings) (p : Prober) {m n : Nat} (h : m ≤ n) :
    (pings u p n).1.take m = (pings u p m).1 := by
  induction n, h using Nat.le_induction with
  | base => rw [List.take_of_length_le (Nat.le_of_eq (length_pings u p m))]
  | succ n hn ih => rw [pings, List.take_append_of_le_length (by rwa [length_pings]), ih]

namespace Follows

variable {u : Surroundings} {p q : Prober} {os os' : List Outcome}

/-- The outcomes are those of the pings, whichever rounds they were made in. -/
lemma eq_take {k : Nat} (h : Follows u p os' q) (hos : (pings u p k).1 = os.map .ok)
    (hk : os'.length ≤ k) : os' = os.take os'.length := by
  have hok := h.outcomes
  rw [← take_pings u p hk, hos, ← List.map_take] at hok
  exact (List.map_injective_iff.mpr (fun _ _ => Except.ok.inj) hok).symm

/-- What shows is what shows of the pings, and their lines. -/
lemma showing_eq (hu : u.Gentle) (hp : ∀ r ∈ p.inbox, ∃ d, r = .ok d)
    (ht : ∀ i < os.length, u.Tells (pings u p i).2.journal p.timeout) (h : Follows u p os q) :
    q.showing = p.reported u os := by
  obtain ⟨os', hos, hnumbers, -⟩ := pings_of_gentle hu hp ht
  obtain rfl : os' = os :=
    List.map_injective_iff.mpr (fun _ _ => Except.ok.inj) (hos.symm.trans h.outcomes)
  unfold showing reported
  rw [h.lines, h.flushes, lines_of_numbers hnumbers, h.alike.next, h.alike.inbox,
    ← departures_pinging, ← notices_pinging, h.alike.pinging, departures_pinging,
    notices_pinging]

end Follows

/-- **Rounds are pings that follow each other.** Asked to stop after `k` lines, they end and have
printed the outcomes of `k` pings, and have sent, noted, numbered and left queued what these do,
however many pings make a round and however long the rests are, if the clock can tell the end of
each rest. Otherwise they break down after a whole number of rounds, and the same holds of the pings
made by then. -/
theorem rounds_eq_pings {u : Surroundings} {p : Prober} {k : Nat} (hu : u.Gentle)
    (ht : u.KeepsTime) (hp : ∀ r ∈ p.inbox, ∃ d, r = .ok d)
    (hstop : ∀ j, u.stop j = decide (p.journal.lines.length + k ≤ j.lines.length))
    (hpings : ∀ i < k, u.Tells (pings u p i).2.journal p.timeout) :
    ∃ os : List Outcome, (pings u p k).1 = os.map .ok ∧ os.length = k ∧
      ∀ count interval, 0 < count →
        (∀ i, Rounds.DeadlineTold u (Rounds.run u count interval i ⟨p, .starting⟩)) →
        ∃ n, ∀ m, n ≤ m →
          ((∀ i, Rounds.RestTold u interval (Rounds.run u count interval i ⟨p, .starting⟩)) →
            (Rounds.run u count interval m ⟨p, .starting⟩).result? = some (.ok ()) ∧
            (Rounds.run u count interval m ⟨p, .starting⟩).prober.showing = p.reported u os) ∧
          ((¬ ∀ i, Rounds.RestTold u interval (Rounds.run u count interval i ⟨p, .starting⟩)) →
            (Rounds.run u count interval m ⟨p, .starting⟩).result? = some (.error .overflow) ∧
            ∃ rounds, (rounds + 1) * count ≤ k ∧
              (Rounds.run u count interval m ⟨p, .starting⟩).prober.showing =
                p.reported u (os.take ((rounds + 1) * count))) := by
  obtain ⟨os, hos, -, -⟩ := pings_of_gentle hu hp hpings
  have hlen : os.length = k := by
    rw [← length_pings u p k, hos, List.length_map]
  refine ⟨os, hos, hlen, fun count interval hcount hdeadlines => ?_⟩
  -- the rounds make all pings and end well, or come to a rest whose end the clock cannot tell
  have hways : (∃ n q, (∀ m, n ≤ m →
      Rounds.run u count interval m ⟨p, .starting⟩ = ⟨q, .ended (.ok ())⟩) ∧ Follows u p os q) ∨
      ∃ os', os'.length ≤ k ∧ Stuck u count interval p os' := by
    rcases Follows.pings_made interval hu ht hp hcount hstop hpings hdeadlines (Nat.le_refl k) with
      ⟨n, q, phase, os', hrun, hphase, hlen', h⟩ | hstuck
    · rcases h.rounds_over hstop (Nat.le_of_eq hlen'.symm) hrun hphase with
        ⟨q', hover, h'⟩ | hstuck
      · have hsame := h.eq_take hos (Nat.le_of_eq hlen')
        rw [List.take_of_length_le (by rw [hlen, hlen'])] at hsame
        exact .inl ⟨n + 3, q', hover, hsame ▸ h'⟩
      · exact .inr ⟨os', Nat.le_of_eq hlen', hstuck⟩
    · exact .inr hstuck
  rcases hways with ⟨n, q, hover, h⟩ | ⟨os', hle, n, q, hrun, hlate, ⟨rounds, hrounds⟩, h⟩
  · refine ⟨n, fun m hm => ⟨fun _ => ?_, fun hnot => ?_⟩⟩
    · rw [hover m hm]
      exact ⟨rfl, h.showing_eq hu hp fun i hi => hpings i (hlen ▸ hi)⟩
    · -- rounds that end well have not been at such a rest
      refine absurd (fun i => ?_) hnot
      generalize hr : Rounds.run u count interval i ⟨p, .starting⟩ = r
      obtain ⟨q', _ | ⟨_ | left⟩ | resume | result⟩ := r
      · trivial
      · by_contra hlate
        have hend := Rounds.run_of_overflow hr hlate (m := n + i + 1) (by omega)
        rw [hover _ (by omega)] at hend
        cases hend
      all_goals trivial
  · have hover := fun m (hm : n < m) => Rounds.run_of_overflow hrun hlate hm
    have htake := h.eq_take hos hle
    rw [show os'.length = (rounds + 1) * count from hrounds] at htake
    refine ⟨n + 1, fun m hm => ⟨fun hall => ?_, fun _ => ?_⟩⟩
    · have htold := hall n
      rw [hrun] at htold
      exact absurd htold hlate
    · rw [hover m hm]
      refine ⟨rfl, rounds, hrounds ▸ hle, ?_⟩
      rw [← htake]
      exact (h.pause rfl).showing_eq hu hp fun i hi => hpings i (by omega)

/-- Probes with an odd number are answered, twice each. Naps last as long as they are meant to, and
the request to stop comes after three lines. -/
def oddAnswered : Surroundings where
  stop j := decide (3 ≤ j.lines.length)
  clock j := j.naps.sum
  arrivals j :=
    match j.pinging with
    | .noted (.probeSent n _ target) :: _ =>
      if n.toNat % 2 = 1 then List.replicate 2 (.ok ⟨target, Probe.reply (Probe.build n)⟩) else []
    | _ => []

lemma oddAnswered_gentle : oddAnswered.Gentle where
  write _ := rfl
  flush _ := rfl
  send _ _ _ := rfl
  datagrams j r hr := by
    simp only [oddAnswered] at hr
    split at hr
    · split at hr
      · exact ⟨_, List.eq_of_mem_replicate hr⟩
      · cases hr
    · cases hr
  paced i j h := by
    simp only [oddAnswered]
    rw [h]

lemma oddAnswered_keepsTime : oddAnswered.KeepsTime where
  mono a j := by simp [oddAnswered]
  nap m j := by simp [oddAnswered, Act.nap?]

/-- About to send the last number before they begin again. -/
def lastNumber : Prober where
  target := .v4 .loopback 7
  timeout := 5000
  next := 65535

/-- The second copy of the first reply waits for the second ping, which passes it over, also where
a round is over in between. With the longest interval that the command line takes, the rounds break
down at the end of the first one. -/
theorem rounds_eq_pings_lastNumber :
    oddAnswered.Gentle ∧ oddAnswered.KeepsTime ∧
      (∃ n, ∀ m, n ≤ m →
        (Rounds.run oddAnswered 2 300 m ⟨lastNumber, .starting⟩).result? = some (.ok ()) ∧
        (Rounds.run oddAnswered 2 300 m ⟨lastNumber, .starting⟩).prober.showing.lines =
          ["65535: ping\n", "0: ---\n", "1: ping\n"]) ∧
      ∃ n, ∀ m, n ≤ m →
        (Rounds.run oddAnswered 2 longestInterval m ⟨lastNumber, .starting⟩).result? =
          some (.error .overflow) := by
  refine ⟨oddAnswered_gentle, oddAnswered_keepsTime, ?_⟩
  obtain ⟨os, hos, -, h⟩ := rounds_eq_pings (p := lastNumber) (k := 3) oddAnswered_gentle
    oddAnswered_keepsTime (by simp [lastNumber]) (fun _ => rfl) (by decide +kernel)
  have hpings : (pings oddAnswered lastNumber 3).1 =
      [.reply 65535 15, .timeout 0, .reply 1 15].map .ok := by decide +kernel
  have hos' : os = [.reply 65535 15, .timeout 0, .reply 1 15] :=
    List.map_injective_iff.mpr (fun _ _ => Except.ok.inj) (hos.symm.trans hpings)
  constructor
  · have hdeadlines : ∀ i, Rounds.DeadlineTold oddAnswered
        (Rounds.run oddAnswered 2 300 i ⟨lastNumber, .starting⟩) :=
      Rounds.forall_run (n := 10) (by decide +kernel) (by decide +kernel)
    have hrests : ∀ i, Rounds.RestTold oddAnswered 300
        (Rounds.run oddAnswered 2 300 i ⟨lastNumber, .starting⟩) :=
      Rounds.forall_run (n := 10) (by decide +kernel) (by decide +kernel)
    obtain ⟨n, hn⟩ := h 2 300 (by decide) hdeadlines
    refine ⟨n, fun m hm => ?_⟩
    obtain ⟨hresult, hshowing⟩ := (hn m hm).1 hrests
    refine ⟨hresult, ?_⟩
    rw [hshowing, hos']
    rfl
  · have hdeadlines : ∀ i, Rounds.DeadlineTold oddAnswered
        (Rounds.run oddAnswered 2 longestInterval i ⟨lastNumber, .starting⟩) :=
      Rounds.forall_run (n := 4) (by decide +kernel) (by decide +kernel)
    have hrest : ¬ Rounds.RestTold oddAnswered longestInterval
        (Rounds.run oddAnswered 2 longestInterval 3 ⟨lastNumber, .starting⟩) := by decide +kernel
    obtain ⟨n, hn⟩ := h 2 longestInterval (by decide) hdeadlines
    exact ⟨n, fun m hm => ((hn m hm).2 fun hall => hrest (hall 3)).1⟩

/-- Rounds that are asked to stop after `k` lines may break down before: with the longest interval
that the command line takes they do so at the end of the first round. -/
theorem not_ok_of_gentle :
    ¬ ∀ (u : Surroundings) (p : Prober) (k : Nat), u.Gentle → u.KeepsTime →
      (∀ r ∈ p.inbox, ∃ d, r = .ok d) →
      (∀ j, u.stop j = decide (p.journal.lines.length + k ≤ j.lines.length)) →
      (∀ i < k, u.Tells (pings u p i).2.journal p.timeout) →
      ∃ os : List Outcome, (pings u p k).1 = os.map .ok ∧ os.length = k ∧
        ∀ count interval, 0 < count → ∃ n, ∀ m, n ≤ m →
          (Rounds.run u count interval m ⟨p, .starting⟩).result? = some (.ok ()) ∧
          (Rounds.run u count interval m ⟨p, .starting⟩).prober.showing = p.reported u os := by
  intro h
  obtain ⟨os, -, -, hrounds⟩ := h oddAnswered lastNumber 3 oddAnswered_gentle oddAnswered_keepsTime
    (by simp [lastNumber]) (fun _ => rfl) (by decide +kernel)
  obtain ⟨n, hn⟩ := hrounds 1 longestInterval (by decide)
  have hend : (Rounds.run oddAnswered 1 longestInterval 3 ⟨lastNumber, .starting⟩).result? =
    some (.error .overflow) := by decide +kernel
  have hover : Rounds.run oddAnswered 1 longestInterval (3 + n) ⟨lastNumber, .starting⟩ =
      Rounds.run oddAnswered 1 longestInterval 3 ⟨lastNumber, .starting⟩ := by
    rw [Rounds.run_add, Rounds.run_of_ended hend]
  have hok := (hn (3 + n) (Nat.le_add_left n 3)).1
  rw [hover, hend] at hok
  cases hok

end Prober

end PortEcho
