import Mathlib.Algebra.Order.Floor.Div
import PortEcho.Proofs.Prober.Shutdown
import PortEcho.Proofs.Prober.Unrolling

/-!
The rest between two rounds.

A rest is a row of naps, each as long as is left of the rest or as the longest nap. On a clock that
does not go back and on which naps are not too short, what is left shrinks with every nap, so the
rest ends, and it does not end before its time. There is no rest if the clock cannot tell its end:
the rounds break down instead. Times are told in ticks of the clock, of which
`cap` are the longest nap: the rounds have ticks of a millisecond, and how fine the ticks are makes
no other difference.
-/

namespace PortEcho

/-- Naps take as long as they are meant to, and nothing else takes time. -/
structure Surroundings.ExactTime (u : Surroundings) : Prop where
  nap : ∀ m j, u.clock (.slept m :: j) = u.clock j + m
  still : ∀ a j, a.nap? = none → u.clock (a :: j) = u.clock j

lemma Surroundings.ExactTime.keepsTime {u : Surroundings} (h : u.ExactTime) : u.KeepsTime where
  mono a j := by
    cases a with
    | slept m =>
      rw [h.nap]
      exact Nat.le_add_right ..
    | _ => exact Nat.le_of_eq (h.still _ j rfl).symm
  nap m j := Nat.le_of_eq (h.nap m j).symm

/-- One nap of at most `cap` leaves so many naps of that length less. -/
lemma ceilDiv_nap {cap left : Nat} (hcap : 0 < cap) (hleft : 0 < left) :
    (left - min left cap) ⌈/⌉ cap + 1 = left ⌈/⌉ cap := by
  simp only [Nat.ceilDiv_eq_add_pred_div]
  rcases Nat.le_total left cap with h | h
  · have hnone : left - min left cap + cap - 1 < cap := by omega
    have hone : (left + cap - 1) / cap = 1 := Nat.div_eq_of_lt_le (by omega) (by omega)
    rw [Nat.div_eq_of_lt hnone, hone]
  · have hless : left + cap - 1 = (left - min left cap + cap - 1) + cap := by omega
    rw [hless, Nat.add_div_right _ hcap]

lemma ceilDiv_le_ceilDiv {m n : Nat} (h : m ≤ n) (cap : Nat) : m ⌈/⌉ cap ≤ n ⌈/⌉ cap := by
  rw [Nat.ceilDiv_eq_add_pred_div, Nat.ceilDiv_eq_add_pred_div]
  exact Nat.div_le_div_right (by omega)

namespace Prober

namespace Rounds

/-- The next nap, unless the rest is over: `rest` for a longest nap of `cap` ticks. -/
def restWithin (cap : Nat) (w : Surroundings) (resume : Nat) (p : Prober) : Rounds :=
  match p.check w with
  | (true, p) => ⟨p, .starting⟩
  | (false, p) =>
    let (now, p) := p.readClock w
    if resume ≤ now then ⟨p, .starting⟩
    else ⟨p.enter (.slept (min (resume - now) cap)), .resting resume⟩

/-- The first time that the clock cannot tell, in ticks of which `cap` are the longest nap, and so
four times as many are a second. -/
def horizonWithin (cap : Nat) : Nat := 4 * cap * 2 ^ 63

/-- The end of a round: `finish` for a longest nap of `cap` ticks. -/
def finishWithin (cap : Nat) (w : Surroundings) (interval : Nat) (p : Prober) : Rounds :=
  let timely := decide (w.clock p.journal + interval < horizonWithin cap)
  let (now, p) := p.readClock w
  ⟨p, if timely then .resting (now + interval) else .ended (.error .overflow)⟩

/-- One turn of rounds for a longest nap of `cap` ticks. -/
def turnWithin (cap : Nat) (w : Surroundings) (count interval : Nat) (r : Rounds) : Rounds :=
  match r.phase with
  | .pinging 0 => finishWithin cap w interval r.prober
  | .resting resume => restWithin cap w resume r.prober
  | _ => r.turn w count interval

/-- The rounds after `n` turns, for a longest nap of `cap` ticks. -/
def runWithin (cap : Nat) (w : Surroundings) (count interval : Nat) : Nat → Rounds → Rounds
  | 0, r => r
  | n + 1, r =>
    if r.result?.isSome then r
    else runWithin cap w count interval n (r.turnWithin cap w count interval)

variable {u : Surroundings} {cap count interval resume : Nat} {p q t : Prober} {naps : List Nat}

lemma turnWithin_longestNap (u : Surroundings) (count interval : Nat) (r : Rounds) :
    r.turnWithin longestNap u count interval = r.turn u count interval := by
  obtain ⟨p, _ | ⟨_ | _⟩ | _ | _⟩ := r <;> rfl

/-- With ticks of a millisecond these are the rounds themselves. -/
lemma runWithin_longestNap (u : Surroundings) (count interval n : Nat) (r : Rounds) :
    runWithin longestNap u count interval n r = run u count interval n r := by
  induction n generalizing r with
  | zero => rfl
  | succ n ih => rw [runWithin, run, ih, turnWithin_longestNap]

/-- The turn after a round begins the rest, or is the last one. -/
lemma runWithin_round (n : Nat) :
    runWithin cap u count interval (n + 1) ⟨p, .pinging 0⟩ =
      runWithin cap u count interval n (finishWithin cap u interval p) := rfl

lemma runWithin_resting (n : Nat) :
    runWithin cap u count interval (n + 1) ⟨p, .resting resume⟩ =
      runWithin cap u count interval n (restWithin cap u resume p) := rfl

/-- The course of a rest that is not disturbed: its naps, and the prober at its end. -/
inductive Rest (u : Surroundings) (cap resume : Nat) : Prober → List Nat → Prober → Prop
  | ended (p q : Prober) (hs : u.stop p.journal = false) (hq : q = p.enter (.checked false))
      (h : resume ≤ u.clock q.journal) :
    Rest u cap resume p [] (q.enter (.timed (u.clock q.journal)))
  | nap (p q t : Prober) (now : Nat) (naps : List Nat) (hs : u.stop p.journal = false)
      (hq : q = p.enter (.checked false)) (hnow : now = u.clock q.journal) (h : now < resume)
      (rest : Rest u cap resume
        ((q.enter (.timed now)).enter (.slept (min (resume - now) cap))) naps t) :
    Rest u cap resume p (min (resume - now) cap :: naps) t

/-- What one nap leaves in the journal: the looks before it, and the nap. -/
def lap (m now : Nat) : Journal := [.slept m, .timed now, .checked false]

lemma isPause_lap (m now : Nat) : ∀ a ∈ lap m now, a.isPause := by
  simp [lap, Act.isPause]

/-- If the request to stop does not come while there are only pauses, it does not come after some of
them either. -/
lemma unstopped_append {i j : Journal}
    (hclear : ∀ js : Journal, (∀ a ∈ js, a.isPause) → u.stop (js ++ j) = false)
    (hi : ∀ a ∈ i, a.isPause) :
    ∀ js : Journal, (∀ a ∈ js, a.isPause) → u.stop (js ++ (i ++ j)) = false := by
  intro js hjs
  rw [← List.append_assoc]
  exact hclear _ (List.forall_mem_append.mpr ⟨hjs, hi⟩)

/-- A rest on a clock that keeps time comes to its end. -/
lemma exists_rest (hu : u.KeepsTime) (hcap : 0 < cap) (resume : Nat)
    (hclear : ∀ js : Journal, (∀ a ∈ js, a.isPause) → u.stop (js ++ p.journal) = false) :
    ∃ naps t, Rest u cap resume p naps t := by
  -- each nap brings the clock nearer to the end of the rest
  induction hd : resume - u.clock p.journal using Nat.strongRecOn generalizing p with
  | ind d ih =>
    have hs : u.stop p.journal = false := hclear [] (List.forall_mem_nil _)
    obtain ⟨q, hq⟩ : ∃ q, q = p.enter (.checked false) := ⟨_, rfl⟩
    obtain ⟨now, hnow⟩ : ∃ now, now = u.clock q.journal := ⟨_, rfl⟩
    by_cases hover : resume ≤ now
    · exact ⟨[], _, .ended p q hs hq (hnow ▸ hover)⟩
    · obtain ⟨m, hm⟩ : ∃ m, m = min (resume - now) cap := ⟨_, rfl⟩
      have hlate : u.clock p.journal ≤ now := by
        rw [hnow, hq]
        exact hu.mono _ _
      have hnap := hu.le_clock_nap m now q.journal
      have hclear' := unstopped_append hclear (isPause_lap m now)
      have hjournal : ((q.enter (.timed now)).enter (.slept m)).journal =
          lap m now ++ p.journal := by
        rw [hq]
        rfl
      rw [← hjournal] at hclear'
      obtain ⟨naps, t, hrest⟩ := ih (resume - u.clock (.slept m :: .timed now :: q.journal))
        (by omega) (p := (q.enter (.timed now)).enter (.slept m)) hclear' rfl
      rw [hm] at hrest
      exact ⟨_, t, .nap p q t now naps hs hq hnow (Nat.lt_of_not_le hover) hrest⟩

namespace Rest

/-- The rounds rest for one turn each nap, and begin the next round with the turn after them. -/
lemma runs (h : Rest u cap resume p naps t) (count interval : Nat) :
    (∀ n ≤ naps.length,
      (runWithin cap u count interval n ⟨p, .resting resume⟩).phase = .resting resume) ∧
    runWithin cap u count interval (naps.length + 1) ⟨p, .resting resume⟩ = ⟨t, .starting⟩ := by
  induction h with
  | ended p q hs hq h =>
    subst hq
    have hturn : restWithin cap u resume p =
        ⟨(p.enter (.checked false)).enter (.timed (u.clock (p.enter (.checked false)).journal)),
          .starting⟩ := by
      simp only [restWithin, check, readClock, hs]
      exact if_pos h
    refine ⟨fun n hn => ?_, ?_⟩
    · rw [Nat.le_zero.mp hn]
      rfl
    · rw [runWithin_resting, hturn]
      rfl
  | nap p q t now naps hs hq hnow h _ ih =>
    have hturn : restWithin cap u resume p =
        ⟨(q.enter (.timed now)).enter (.slept (min (resume - now) cap)), .resting resume⟩ := by
      simp only [restWithin, check, readClock, hs, ← hq, ← hnow, if_neg (Nat.not_le_of_lt h)]
    refine ⟨fun n hn => ?_, ?_⟩
    · rcases n with _ | n
      · rfl
      · rw [runWithin_resting, hturn]
        exact ih.1 n (Nat.le_of_succ_le_succ hn)
    · rw [List.length_cons, runWithin_resting, hturn]
      exact ih.2

/-- A rest does nothing but pause, and its last act is a look at the clock, at `resume` or later. -/
lemma journal (h : Rest u cap resume p naps t) :
    ∃ (js : Journal) (finish : Nat), t = { p with journal := .timed finish :: (js ++ p.journal) } ∧
      (∀ a ∈ js, a.isPause) ∧ js.naps = naps ∧ finish = u.clock (js ++ p.journal) ∧
      resume ≤ finish := by
  induction h with
  | ended p q hs hq h =>
    subst hq
    exact ⟨[.checked false], _, rfl, by simp [Act.isPause], rfl, rfl, h⟩
  | nap p q t now naps hs hq hnow h _ ih =>
    obtain ⟨js, finish, rfl, hpause, hnaps, hfinish, hlate⟩ := ih
    obtain ⟨last, hlast⟩ : ∃ last, last = lap (min (resume - now) cap) now := ⟨_, rfl⟩
    have hjournal : ((q.enter (.timed now)).enter (.slept (min (resume - now) cap))).journal =
        last ++ p.journal := by
      rw [hlast, hq]
      rfl
    rw [hjournal, ← List.append_assoc] at hfinish ⊢
    refine ⟨js ++ last, finish, by rw [hq]; rfl, ?_, ?_, hfinish, hlate⟩
    · exact List.forall_mem_append.mpr ⟨hpause, hlast ▸ isPause_lap _ _⟩
    · rw [Journal.naps_append, hnaps, hlast]
      rfl

lemma short (h : Rest u cap resume p naps t) (hcap : 0 < cap) : ∀ m ∈ naps, 0 < m ∧ m ≤ cap := by
  induction h with
  | ended => exact List.forall_mem_nil _
  | nap p q t now naps _ _ _ h _ ih =>
    refine List.forall_mem_cons.mpr ⟨⟨?_, Nat.min_le_right ..⟩, ih⟩
    exact Nat.lt_min.mpr ⟨Nat.sub_pos_of_lt h, hcap⟩

/-- There are no more naps than naps of full length in what is left of the rest. -/
lemma length_le (h : Rest u cap resume p naps t) (hu : u.KeepsTime) (hcap : 0 < cap) :
    naps.length ≤ (resume - u.clock p.journal) ⌈/⌉ cap := by
  induction h with
  | ended => exact Nat.zero_le _
  | nap p q t now naps _ hq hnow h _ ih =>
    obtain ⟨m, hm⟩ : ∃ m, m = min (resume - now) cap := ⟨_, rfl⟩
    have hlate : u.clock p.journal ≤ now := by
      rw [hnow, hq]
      exact hu.mono _ _
    have hnap := hu.le_clock_nap m now q.journal
    rw [← hm] at ih
    calc naps.length + 1
        ≤ (resume - u.clock (.slept m :: .timed now :: q.journal)) ⌈/⌉ cap + 1 :=
          Nat.succ_le_succ ih
      _ ≤ (resume - now - m) ⌈/⌉ cap + 1 :=
          Nat.succ_le_succ (ceilDiv_le_ceilDiv (by omega) cap)
      _ = (resume - now) ⌈/⌉ cap := by rw [hm, ceilDiv_nap hcap (Nat.sub_pos_of_lt h)]
      _ ≤ (resume - u.clock p.journal) ⌈/⌉ cap := ceilDiv_le_ceilDiv (by omega) cap

/-- In exact time all naps but the last have full length, and the rest ends at its time. -/
lemma exact (h : Rest u cap resume p naps t) (hu : u.ExactTime) (hcap : 0 < cap)
    (hbefore : u.clock p.journal ≤ resume) :
    naps.length = (resume - u.clock p.journal) ⌈/⌉ cap ∧ u.clock t.journal = resume := by
  induction h with
  | ended p q _ hq h =>
    have hq' : u.clock q.journal = u.clock p.journal := by
      rw [hq]
      exact hu.still _ _ rfl
    have hnow : u.clock p.journal = resume := Nat.le_antisymm hbefore (hq' ▸ h)
    refine ⟨?_, ?_⟩
    · rw [hnow, Nat.sub_self, zero_ceilDiv]
      rfl
    · exact (hu.still _ _ rfl).trans (hq'.trans hnow)
  | nap p q t now naps _ hq hnow h _ ih =>
    obtain ⟨m, hm⟩ : ∃ m, m = min (resume - now) cap := ⟨_, rfl⟩
    have hp : now = u.clock p.journal := by
      rw [hnow, hq]
      exact hu.still _ _ rfl
    have hnap : u.clock (.slept m :: .timed now :: q.journal) = now + m := by
      rw [hu.nap, hu.still _ _ rfl, ← hnow]
    rw [← hm] at ih ⊢
    obtain ⟨hlength, hend⟩ := ih (by
      have hle : m ≤ resume - now := hm ▸ Nat.min_le_left ..
      show u.clock (.slept m :: .timed now :: q.journal) ≤ resume
      omega)
    refine ⟨?_, hend⟩
    calc naps.length + 1
        = (resume - u.clock (.slept m :: .timed now :: q.journal)) ⌈/⌉ cap + 1 :=
          congrArg (· + 1) hlength
      _ = (resume - now - m) ⌈/⌉ cap + 1 := by rw [hnap, Nat.sub_add_eq]
      _ = (resume - now) ⌈/⌉ cap := by rw [hm, ceilDiv_nap hcap (Nat.sub_pos_of_lt h)]
      _ = (resume - u.clock p.journal) ⌈/⌉ cap := by rw [hp]

end Rest

end Rounds

/-- From `p` to `q` there was a pause, begun with a look at the clock at `start` and ended with one
at `finish`. -/
structure Paused (u : Surroundings) (p q : Prober) (naps : List Nat) (start finish : Nat) :
    Prop where
  began : start = u.clock p.journal
  /-- In between there was nothing but looks and naps. -/
  passed : ∃ js : Journal, (∀ a ∈ js, a.isPause) ∧ js.naps = naps ∧
    finish = u.clock (js ++ .timed start :: p.journal) ∧
    q = { p with journal := .timed finish :: (js ++ .timed start :: p.journal) }

/-- **Rest.** On a clock that keeps time, and while the request to stop does not come, the pause
after a round is over after as many naps as the interval holds of the longest, or fewer, and not
before the interval has passed. In exact time it takes exactly the interval, and as many naps. If
the clock cannot tell the end of the interval, there is no pause, and the rounds break down at its
beginning. This holds for any length of the longest nap, and so also for that of the rounds on a
clock that ticks in parts of a millisecond. -/
theorem pause_lasts {u : Surroundings} (hu : u.KeepsTime) {cap : Nat} (hcap : 0 < cap)
    (count interval : Nat) {p : Prober}
    (hclear : ∀ js : Journal, (∀ a ∈ js, a.isPause) → u.stop (js ++ p.journal) = false) :
    (∀ n r, Rounds.runWithin longestNap u count interval n r = Rounds.run u count interval n r) ∧
    (Rounds.horizonWithin cap ≤ u.clock p.journal + interval →
      ∀ n, Rounds.runWithin cap u count interval (n + 1) ⟨p, .pinging 0⟩ =
        ⟨p.enter (.timed (u.clock p.journal)), .ended (.error .overflow)⟩) ∧
    (u.clock p.journal + interval < Rounds.horizonWithin cap →
      ∃ naps q start finish, Paused u p q naps start finish ∧
        (∀ n ≤ naps.length,
          (Rounds.runWithin cap u count interval (n + 1) ⟨p, .pinging 0⟩).phase =
            .resting (start + interval)) ∧
        Rounds.runWithin cap u count interval (naps.length + 2) ⟨p, .pinging 0⟩ = ⟨q, .starting⟩ ∧
        naps.length ≤ interval ⌈/⌉ cap ∧ (∀ m ∈ naps, 0 < m ∧ m ≤ cap) ∧
        start + interval ≤ finish ∧
        (u.ExactTime → naps.length = interval ⌈/⌉ cap ∧ finish = start + interval)) := by
  refine ⟨Rounds.runWithin_longestNap u count interval, fun hlate n => ?_, fun htimely => ?_⟩
  · have hfinish : Rounds.finishWithin cap u interval p =
        ⟨p.enter (.timed (u.clock p.journal)), .ended (.error .overflow)⟩ := by
      simp only [Rounds.finishWithin, readClock, decide_eq_false (Nat.not_lt_of_le hlate)]
      rfl
    rw [Rounds.runWithin_round, hfinish]
    cases n <;> rfl
  obtain ⟨start, hstart⟩ : ∃ start, start = u.clock p.journal := ⟨_, rfl⟩
  obtain ⟨naps, q, hrest⟩ := Rounds.exists_rest (p := p.enter (.timed start)) hu hcap
    (start + interval) (Rounds.unstopped_append hclear (List.forall_mem_singleton.mpr rfl))
  obtain ⟨js, finish, hq, hpause, hnaps, hfinish, hlate⟩ := hrest.journal
  obtain ⟨hresting, hover⟩ := hrest.runs count interval
  -- the first turn reads the clock
  have hfirst : ∀ n, Rounds.runWithin cap u count interval (n + 1) ⟨p, .pinging 0⟩ =
      Rounds.runWithin cap u count interval n
        ⟨p.enter (.timed start), .resting (start + interval)⟩ := by
    intro n
    rw [Rounds.runWithin_round, hstart]
    simp only [Rounds.finishWithin, readClock, decide_eq_true htimely, if_true]
  have hbegun : start ≤ u.clock (p.enter (.timed start)).journal := by
    rw [hstart]
    exact hu.mono _ _
  refine ⟨naps, q, start, finish, ⟨hstart, js, hpause, hnaps, hfinish, hq⟩, fun n hn => ?_, ?_,
    ?_, hrest.short hcap, hlate, fun hexact => ?_⟩
  · rw [hfirst]
    exact hresting n hn
  · rw [hfirst]
    exact hover
  · exact (hrest.length_le hu hcap).trans (ceilDiv_le_ceilDiv (by omega) cap)
  · have hstill : u.clock (p.enter (.timed start)).journal = start := by
      rw [hstart]
      exact hexact.still _ _ rfl
    obtain ⟨hlength, hend⟩ := hrest.exact hexact hcap (by omega)
    have hlook : u.clock q.journal = finish := by
      rw [hq, hfinish]
      exact hexact.still _ _ rfl
    rw [hstill, Nat.add_sub_cancel_left] at hlength
    exact ⟨hlength, hlook.symm.trans hend⟩

/-- A clock on which a nap takes a tick longer than it is meant to. -/
def drowsy : Surroundings where
  clock j := (j.naps.map (· + 1)).sum

lemma drowsy_keepsTime : drowsy.KeepsTime where
  mono a j := by
    simp only [drowsy, Journal.naps_cons, List.map_append, List.sum_append]
    exact Nat.le_add_right ..
  nap m j := by
    simp only [drowsy, Journal.naps_cons, List.map_append, List.sum_append]
    exact Nat.add_le_add_left (Nat.le_succ m) _

/-- A clock that goes by the naps alone. -/
def unhurried : Surroundings where
  clock j := j.naps.sum

lemma unhurried_exactTime : unhurried.ExactTime where
  nap m j := by simp [unhurried, Act.nap?]
  still a j h := by simp [unhurried, h]

/-- A pause whose last nap is a short one, with naps that take too long, and one whose last nap is
the shortest there is, in exact time and in ticks of a nanosecond. -/
theorem pause_lasts_lastNap :
    (drowsy.KeepsTime ∧ 0 < longestNap ∧
      (Rounds.run drowsy 1 600 5 ⟨unanswered, .pinging 0⟩).prober.journal.naps = [250, 250, 98] ∧
      ∃ naps q start finish, Paused drowsy unanswered q naps start finish ∧
        Rounds.run drowsy 1 600 (naps.length + 2) ⟨unanswered, .pinging 0⟩ = ⟨q, .starting⟩ ∧
        naps.length ≤ 3 ∧ start + 600 ≤ finish) ∧
    (unhurried.ExactTime ∧ 0 < 250000000 ∧
      ∃ naps q start finish, Paused unhurried unanswered q naps start finish ∧
        naps.length = 2 ∧ finish = start + 250000001) := by
  refine ⟨⟨drowsy_keepsTime, by decide, by decide, ?_⟩, unhurried_exactTime, by decide, ?_⟩
  · obtain ⟨hrun, -, hpause⟩ :=
      pause_lasts drowsy_keepsTime (show 0 < longestNap by decide) 1 600 (p := unanswered)
        fun _ _ => rfl
    obtain ⟨naps, q, start, finish, hpaused, -, hover, hlength, -, hlate, -⟩ := hpause (by decide)
    exact ⟨naps, q, start, finish, hpaused, by rw [← hrun, hover], hlength, hlate⟩
  · obtain ⟨-, -, hpause⟩ :=
      pause_lasts unhurried_exactTime.keepsTime (show 0 < 250000000 by decide) 1 250000001
        (p := unanswered) fun _ _ => rfl
    obtain ⟨naps, q, start, finish, hpaused, -, -, -, -, -, hexact⟩ := hpause (by decide)
    obtain ⟨hlength, hfinish⟩ := hexact unhurried_exactTime
    exact ⟨naps, q, start, finish, hpaused, hlength, hfinish⟩

/-- With the longest interval that the command line takes there is no pause, also where the clock
begins at zero and time is exact. -/
theorem not_paused_of_exactTime :
    ¬ ∀ (u : Surroundings), u.ExactTime → ∀ (count interval : Nat) (p : Prober),
      (∀ js : Journal, (∀ a ∈ js, a.isPause) → u.stop (js ++ p.journal) = false) →
      ∃ naps q start finish, Paused u p q naps start finish ∧
        Rounds.run u count interval (naps.length + 2) ⟨p, .pinging 0⟩ = ⟨q, .starting⟩ ∧
        naps.length = interval ⌈/⌉ longestNap ∧ finish = start + interval := by
  intro h
  obtain ⟨naps, q, -, -, -, hover, -, -⟩ :=
    h unhurried unhurried_exactTime 1 longestInterval unanswered fun _ _ => rfl
  have hlate : ¬ unhurried.Tells unanswered.journal longestInterval := by decide
  rw [Rounds.run_of_overflow (n := 0) rfl hlate (Nat.succ_pos _)] at hover
  cases hover

end Prober

end PortEcho
