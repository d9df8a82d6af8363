import PortEcho.CommandLine.Probe
import PortEcho.Proofs.Prober.Account

/-!
Rounds that are asked to stop.

The request may come at any moment of the rounds, also within a turn. A turn looks for the request
first and then makes one trial or takes one nap, so what is done after the request is at most the
rest of that turn, and pauses.

The request is not looked for at the end of a round, so rounds that cannot rest break down there
even if it has come.
-/

namespace PortEcho

/-- A look for the request to stop, or at the clock. -/
def Act.isGlance : Act → Bool
  | .checked _ | .timed _ => true
  | _ => false

lemma Act.isPause_of_isGlance {a : Act} (h : a.isGlance) : a.isPause := by
  cases a with
  | checked | timed => rfl
  | _ => cases h

lemma Act.nap_of_isGlance {a : Act} (h : a.isGlance) : a.nap? = none := by
  cases a with
  | checked | timed => rfl
  | _ => cases h

namespace Prober

/-- The probe is the first thing in a trial, so a later part of the trial that has the probe is the
whole of it. -/
lemma Trial.whole_of_send {t : Trial} (ht : t.Sound) {later early : Journal}
    (h : t.acts = later ++ early) {a : Act} (ha : a ∈ later) (hsend : a.isSend) :
    (∃ rest, later = rest ++ [a]) ∧ early = [] := by
  have hsilent : ∀ b ∈ t.fate.report ++ t.looks, b.isSend = false := by
    intro b hb
    rcases List.mem_append.mp hb with hb | hb
    · exact (Fate.quiet_of_mem_report hb).2
    · exact (Act.silent_of_isLook (ht.onlyLooks b hb)).send
  have hnot : a ∉ t.fate.report ++ t.looks := by
    intro hmem
    rw [hsilent a hmem] at hsend
    cases hsend
  have hsplit : later ++ early = (t.fate.report ++ t.looks) ++
      [.sent t.target (Probe.build t.number) t.given] := by
    rw [← h, Trial.acts, Trial.pinging, List.append_assoc]
  rcases List.append_eq_append_iff.mp hsplit with ⟨between, hrest, -⟩ | ⟨between, rfl, hlast⟩
  · rw [hrest] at hnot
    exact absurd (List.mem_append_left _ ha) hnot
  · rcases between with _ | ⟨b, between⟩
    · rw [List.append_nil] at ha
      exact absurd ha hnot
    · obtain ⟨-, hnil⟩ := List.cons_eq_cons.mp hlast
      obtain ⟨rfl, rfl⟩ := List.append_eq_nil_iff.mp hnil.symm
      rcases List.mem_append.mp ha with hmem | hmem
      · exact absurd hmem hnot
      · obtain rfl := List.mem_singleton.mp hmem
        exact ⟨⟨_, rfl⟩, rfl⟩

/-- All that rounds, begun at `start`, may have done `later` if the request to stop came at
`sofar`. -/
structure Remnant (start sofar later : Journal) : Prop where
  sends : later.sends ≤ 1
  writes : later.writes ≤ 1
  naps : later.naps.length ≤ 1
  short : ∀ millis ∈ later.naps, millis ≤ 250
  /-- A probe is sent only as the very next thing, after a look that did not find the request. -/
  cleared : ∀ a ∈ later, a.isSend →
    ∃ rest before, later = rest ++ [a] ∧ sofar = .checked false :: before ∧ start <:+ before

namespace Remnant

variable {start sofar later : Journal}

lemma nil : Remnant start sofar [] :=
  ⟨Nat.zero_le _, Nat.zero_le _, Nat.zero_le _, List.forall_mem_nil _, List.forall_mem_nil _⟩

lemma glance (h : Remnant start sofar later) {a : Act} (ha : a.isGlance) :
    Remnant start sofar (a :: later) := by
  obtain ⟨-, -, hwrite, -, hsend⟩ := Act.silent_of_isPause (Act.isPause_of_isGlance ha)
  have hnap := Act.nap_of_isGlance ha
  refine ⟨?_, ?_, ?_, ?_, ?_⟩
  · simpa [hsend] using h.sends
  · simpa [hwrite] using h.writes
  · simpa [hnap] using h.naps
  · simpa [hnap] using h.short
  · intro b hb hbsend
    rcases List.mem_cons.mp hb with rfl | hb
    · rw [hsend] at hbsend
      cases hbsend
    · obtain ⟨rest, before, hlater, hsofar⟩ := h.cleared b hb hbsend
      exact ⟨a :: rest, before, by rw [hlater, List.cons_append], hsofar⟩

lemma glances (h : Remnant start sofar later) {js : Journal} (hjs : ∀ a ∈ js, a.isGlance) :
    Remnant start sofar (js ++ later) := by
  induction js with
  | nil => exact h
  | cons a js ih =>
    obtain ⟨ha, hjs⟩ := List.forall_mem_cons.mp hjs
    exact (ih hjs).glance ha

/-- What is left of a trial, if its look for the request found nothing. -/
lemma of_trial {t : Trial} (ht : t.Sound) {early before : Journal} (hacts : t.acts = later ++ early)
    (hstart : start <:+ before) :
    Remnant start (early ++ .checked false :: before) later := by
  have hpre : later <+: t.acts := ⟨early, hacts.symm⟩
  have hnaps : later.naps = [] := by
    have hall := Trial.naps_acts ht
    rw [hacts, Journal.naps_append] at hall
    exact (List.append_eq_nil_iff.mp hall).2
  have hwrites : Journal.writes t.acts ≤ 1 := by
    rw [Trial.writes_acts ht]
    rcases t.fate with _ | _ | _ | _ <;> simp [Fate.report, Act.isWrite, Journal.writes]
  refine ⟨?_, ?_, by simp [hnaps], by simp [hnaps], fun a ha hsend => ?_⟩
  · rw [← Trial.sends_acts ht]
    exact hpre.sublist.countP_le
  · exact Nat.le_trans hpre.sublist.countP_le hwrites
  · obtain ⟨⟨rest, hrest⟩, rfl⟩ := Trial.whole_of_send ht hacts ha hsend
    exact ⟨rest, before, hrest, rfl, hstart⟩

/-- What is left of a nap. -/
lemma of_nap {millis now : Nat} (hm : millis ≤ longestNap) {early : Journal}
    (hacts : [.slept millis, .timed now, .checked false] = later ++ early) :
    Remnant start sofar later := by
  have hmem : ∀ a ∈ later, a ∈ [.slept millis, .timed now, .checked false] := by
    intro a ha
    rw [hacts]
    exact List.mem_append_left _ ha
  have hquiet : ∀ a ∈ later, a.isSend = false ∧ a.isWrite = false := by
    intro a ha
    have hall := hmem a ha
    simp only [List.mem_cons, List.not_mem_nil, or_false] at hall
    rcases hall with rfl | rfl | rfl <;> exact ⟨rfl, rfl⟩
  have hnaps : later.naps <:+ [millis] := by
    have hview := Journal.naps_append later early
    rw [← hacts] at hview
    exact ⟨early.naps, hview.symm⟩
  refine ⟨?_, ?_, hnaps.length_le, ?_, ?_⟩
  · have hnone : later.sends = 0 := List.countP_eq_zero.mpr fun a ha => by simp [hquiet a ha]
    rw [hnone]
    exact Nat.zero_le _
  · have hnone : later.writes = 0 := List.countP_eq_zero.mpr fun a ha => by simp [hquiet a ha]
    rw [hnone]
    exact Nat.zero_le _
  · intro m hin
    rw [List.mem_singleton.mp (hnaps.subset hin)]
    exact hm
  · intro a ha hsend
    rw [(hquiet a ha).1] at hsend
    cases hsend

end Remnant

namespace Rounds

/-- What a turn does, after the journal `j`. -/
inductive Deed (u : Surroundings) (j : Journal) : Journal → Prop
  | glances (js : Journal) (h : ∀ a ∈ js, a.isGlance) : Deed u j js
  | trial (t : Trial) (h : t.Sound) (hs : u.stop j = false) : Deed u j (t.acts ++ [.checked false])
  | nap (millis now : Nat) (h : millis ≤ longestNap) (hs : u.stop j = false) :
    Deed u j [.slept millis, .timed now, .checked false]

variable {u : Surroundings} {count interval : Nat} {p : Prober} {r r' : Rounds}
  {start sofar later before acts : Journal}

lemma deed_of_turned (h : Turned u count interval r r') :
    ∃ acts, r'.prober.journal = acts ++ r.prober.journal ∧ Deed u r.prober.journal acts := by
  cases h with
  | closed p _ => exact ⟨[.checked true], rfl, .glances _ (by simp [Act.isGlance])⟩
  | opened p _ => exact ⟨[.checked false], rfl, .glances _ (by simp [Act.isGlance])⟩
  | stopped p _ _ => exact ⟨[.checked true], rfl, .glances _ (by simp [Act.isGlance])⟩
  | tried p q _ t hs _ ht =>
    refine ⟨t.acts ++ [.checked false], ?_, .trial t ht.sound hs⟩
    rw [ht.journal, List.append_assoc]
    rfl
  | paused p _ => exact ⟨[.timed _], rfl, .glances _ (by simp [Act.isGlance])⟩
  | overflowed p _ => exact ⟨[.timed _], rfl, .glances _ (by simp [Act.isGlance])⟩
  | roused p _ _ => exact ⟨[.checked true], rfl, .glances _ (by simp [Act.isGlance])⟩
  | rested p q _ _ hq _ =>
    subst hq
    exact ⟨[.timed _, .checked false], rfl, .glances _ (by simp [Act.isGlance])⟩
  | napped p q _ hs hq _ =>
    subst hq
    exact ⟨[.slept _, .timed _, .checked false], rfl, .nap _ _ (Nat.min_le_right ..) hs⟩

/-- The request comes within a turn. -/
lemma Deed.remnant (h : Deed u before acts) {early : Journal} (hacts : acts = later ++ early)
    (hstart : start <:+ before) (hstop : u.StopsFrom (early ++ before)) :
    Remnant start (early ++ before) later := by
  cases h with
  | glances js hjs =>
    have hlater : Remnant start (early ++ before) (later ++ []) :=
      Remnant.nil.glances fun a ha => hjs a (by rw [hacts]; exact List.mem_append_left _ ha)
    rwa [List.append_nil] at hlater
  | trial t ht hs =>
    rcases List.eq_nil_or_concat early with rfl | ⟨early, a, rfl⟩
    · have hnow : u.stop before = true := hstop []
      rw [hs] at hnow
      cases hnow
    · rw [List.concat_eq_append, ← List.append_assoc] at hacts
      rw [List.concat_eq_append, List.append_assoc]
      obtain ⟨hrest, hlast⟩ := List.append_inj' hacts rfl
      obtain rfl := List.singleton_inj.mp hlast
      exact .of_trial ht hrest hstart
  | nap millis now hm _ => exact .of_nap hm hacts

/-- The request has come before the turn. -/
lemma Deed.glances_of_stop (h : Deed u before acts) (hstop : u.stop before = true) :
    ∀ a ∈ acts, a.isGlance := by
  cases h with
  | glances js hjs => exact hjs
  | trial t _ hs =>
    rw [hs] at hstop
    cases hstop
  | nap millis now _ hs =>
    rw [hs] at hstop
    cases hstop

/-- The rounds have heeded the request to stop, whenever it may have come. -/
structure Heedful (u : Surroundings) (start : Journal) (r : Rounds) : Prop where
  begun : start <:+ r.prober.journal
  remnant : ∀ later sofar, r.prober.journal = later ++ sofar → start <:+ sofar →
    u.StopsFrom sofar → Remnant start sofar later

lemma heedful_start (u : Surroundings) (p : Prober) : Heedful u p.journal ⟨p, .starting⟩ := by
  refine ⟨List.suffix_rfl, fun later sofar hall hsofar _ => ?_⟩
  -- nothing has been done yet
  have hnil : later = [] := by
    have hlen := hsofar.length_le
    rw [show p.journal = later ++ sofar from hall, List.length_append] at hlen
    exact List.length_eq_zero_iff.mp (by omega)
  rw [hnil]
  exact Remnant.nil

lemma heedful_turned (h : Heedful u start r) (ht : Turned u count interval r r') :
    Heedful u start r' := by
  obtain ⟨acts, hjournal, hdeed⟩ := deed_of_turned ht
  refine ⟨?_, fun later sofar hall hsofar hstop => ?_⟩
  · rw [hjournal]
    exact h.begun.trans (List.suffix_append ..)
  rw [hjournal] at hall
  -- the request has come before the turn, or comes within it
  rcases List.append_eq_append_iff.mp hall with ⟨done, rfl, hbefore⟩ | ⟨early, hacts, rfl⟩
  · have hnow : u.stop r.prober.journal = true := by
      rw [hbefore]
      exact hstop done
    exact (h.remnant done sofar hbefore hsofar hstop).glances (hdeed.glances_of_stop hnow)
  · exact hdeed.remnant hacts h.begun hstop

lemma heedful_run (u : Surroundings) (count interval n : Nat) (p : Prober) :
    Heedful u p.journal (run u count interval n ⟨p, .starting⟩) :=
  run_induction (heedful_start u p) (fun _ _ h ht => heedful_turned h ht) n

/-- Once the request to stop has come, the rounds are over within three turns. -/
lemma over_of_stopsFrom {n : Nat} (hjournal : r.prober.journal = later ++ sofar)
    (hr : r = run u count interval n ⟨p, .starting⟩) (hstop : u.StopsFrom sofar) :
    ∃ q result, ∀ m, n + 3 ≤ m → run u count interval m ⟨p, .starting⟩ = ⟨q, .ended result⟩ := by
  obtain ⟨q, phase⟩ := r
  have hsplit : ∀ m, n + 3 ≤ m → ∃ k, run u count interval m ⟨p, .starting⟩ =
      run u count interval (k + 3) ⟨q, phase⟩ := by
    intro m hm
    obtain ⟨k, rfl⟩ := Nat.exists_eq_add_of_le hm
    exact ⟨k, by rw [Nat.add_assoc, run_add, ← hr, Nat.add_comm 3 k]⟩
  have hstops : ∀ js : Journal, (∀ a ∈ js, a.isPause) → u.stop (js ++ q.journal) = true := by
    intro js _
    rw [show q.journal = later ++ sofar from hjournal, ← List.append_assoc]
    exact hstop _
  by_cases hphase : ∃ result, phase = .ended result
  · obtain ⟨result, rfl⟩ := hphase
    refine ⟨q, result, fun m hm => ?_⟩
    obtain ⟨k, hk⟩ := hsplit m hm
    rw [hk, run_of_ended rfl]
  · obtain ⟨js, result, -, hover, -⟩ :=
      winds_up count interval hstops fun result h => hphase ⟨result, h⟩
    refine ⟨{ q with journal := js ++ q.journal }, result, fun m hm => ?_⟩
    obtain ⟨k, hk⟩ := hsplit m hm
    rw [hk, hover k]

/-- Nothing was sent since `start`, and no ping comes next. -/
structure Unsent (start : Journal) (r : Rounds) : Prop where
  sends : r.prober.journal.sends = start.sends
  phase : ∀ left, r.phase ≠ .pinging (left + 1)

lemma unsent_turned (h : Unsent start r) (ht : Turned u 0 interval r r') : Unsent start r' := by
  obtain ⟨hsends, hphase⟩ := h
  cases ht with
  | tried q q' left t _ _ _ => exact absurd rfl (hphase left)
  | rested q q' _ _ hq _ =>
    subst hq
    exact ⟨by simpa [Prober.enter, Act.isSend] using hsends, by simp⟩
  | napped q q' _ _ hq _ =>
    subst hq
    exact ⟨by simpa [Prober.enter, Act.isSend] using hsends, by simp⟩
  | closed | opened | stopped | paused | overflowed | roused =>
    exact ⟨by simpa [Prober.enter, Act.isSend] using hsends, by simp⟩

/-- Rounds of no pings send nothing. -/
lemma unsent_run (u : Surroundings) (interval n : Nat) (p : Prober) :
    Unsent p.journal (run u 0 interval n ⟨p, .starting⟩) :=
  run_induction ⟨rfl, by simp⟩ (fun _ _ h ht => unsent_turned h ht) n

/-- How rounds are over in which nothing has failed: well, or because the clock cannot tell when the
next round would begin, or when a reply to the last probe would be late. -/
lemma ending_of_ok {n : Nat} {q : Prober} {result : Except Breakdown Unit}
    (hend : run u count interval n ⟨p, .starting⟩ = ⟨q, .ended result⟩)
    (hacts : q.journal = acts ++ p.journal) (hok : ∀ a ∈ acts, a.failure? = none) :
    (result = .ok () ∧ ∃ os, Printed acts os) ∨
    (result = .error .overflow ∧ (∃ os, Printed acts os) ∧
      ∃ j, q.journal = .timed (u.clock j) :: j ∧ ¬ u.Tells j interval) ∨
    (result = .error .overflow ∧ ∃ sent j, q.journal = sent ++ j ∧ Journal.sends sent = 1 ∧
      ¬ u.Tells j p.timeout) := by
  obtain ⟨ts, htold⟩ := told_run u count interval n p
  rw [hend] at htold
  rcases result with (e | _) | ⟨⟩
  · -- a fault would be that of a trial
    rcases htold.went with ⟨before, t, rfl, hfault, -⟩ | ⟨hnot, -⟩
    · exact absurd hfault (htold.breakdown_of_ok hacts hok (by simp) e)
    · cases hnot
  · have hresult : (run u count interval n ⟨p, .starting⟩).result? = some (.error .overflow) := by
      rw [hend]
      rfl
    obtain ⟨i, -, hnone, hlast⟩ := exists_last_turn rfl hresult
    have hturned := turned u count interval hnone
    rw [← hlast] at hturned
    obtain ⟨ts', htold'⟩ := told_run u count interval i p
    rcases hturned.overflow hresult with
      ⟨s, hs, hlate, hq⟩ | ⟨s, left, m, hs, -, hlate, hq⟩
    all_goals
      rw [hend] at hq
      rw [hs] at htold'
      subst hq
    · -- the trials before have all been printed
      have hlook : Told p ts' ⟨s.enter (.timed (u.clock s.journal)), .starting⟩ :=
        htold'.pause rfl htold'.went
      exact .inr (.inl ⟨rfl, ⟨_, hlook.printed hacts htold'.went⟩, s.journal, rfl, hlate⟩)
    · refine .inr (.inr ⟨rfl, [_, _], .checked false :: s.journal, rfl, rfl, ?_⟩)
      rw [← htold'.timeout]
      exact hlate
  · exact .inl ⟨rfl, _, htold.printed hacts htold.went⟩

end Rounds

/-- **Shutdown.** Whenever the request to stop comes, at most the rest of one trial or of one short
nap is done after it; then the rounds are over. If nothing has failed they have ended well with one
printed line for each probe, unless they have come to a time that the clock cannot tell: the end of
a rest, or the deadline of a ping. A request that was there before the rounds leaves nothing to do,
and rounds of no pings never send anything. -/
theorem rounds_shutdown (u : Surroundings) (count interval : Nat) (p : Prober) :
    (∀ n later sofar,
      (Rounds.run u count interval n ⟨p, .starting⟩).prober.journal = later ++ sofar →
      p.journal <:+ sofar → u.StopsFrom sofar →
      Remnant p.journal sofar later ∧
      ∃ q result acts,
        (∀ m, n + 3 ≤ m → Rounds.run u count interval m ⟨p, .starting⟩ = ⟨q, .ended result⟩) ∧
        q.journal = acts ++ p.journal ∧
        ((∀ a ∈ acts, a.failure? = none) →
          (result = .ok () ∧ ∃ os, Printed acts os) ∨
          (result = .error .overflow ∧ (∃ os, Printed acts os) ∧
            ∃ j, q.journal = .timed (u.clock j) :: j ∧ ¬ u.Tells j interval) ∨
          (result = .error .overflow ∧ ∃ sent j, q.journal = sent ++ j ∧ Journal.sends sent = 1 ∧
            ¬ u.Tells j p.timeout))) ∧
    (u.stop p.journal = true → ∀ n, Rounds.run u count interval (n + 1) ⟨p, .starting⟩ =
      ⟨p.enter (.checked true), .ended (.ok ())⟩) ∧
    (count = 0 → ∀ n, (Rounds.run u count interval n ⟨p, .starting⟩).prober.journal.sends =
      p.journal.sends) := by
  refine ⟨fun n later sofar hall hsofar hstop => ?_, Rounds.run_starting_of_stop, ?_⟩
  · have hheed := Rounds.heedful_run u count interval n p
    obtain ⟨q, result, hover⟩ := Rounds.over_of_stopsFrom hall rfl hstop
    have hend := hover (n + 3) (Nat.le_refl _)
    obtain ⟨acts, hacts⟩ := (Rounds.heedful_run u count interval (n + 3) p).begun
    rw [hend] at hacts
    exact ⟨hheed.remnant later sofar hall hsofar hstop, q, result, acts, hover, hacts.symm,
      Rounds.ending_of_ok hend hacts.symm⟩
  · rintro rfl n
    exact (Rounds.unsent_run u interval n p).sends

/-- The request to stop comes as soon as two looks for it have found nothing. -/
def overdue : Surroundings where
  stop j := decide (2 ≤ j.length)

def unanswered : Prober where
  target := .v4 .loopback 7
  timeout := 5000

/-- The probe whose look was the second one is still sent, and its line still printed. -/
theorem rounds_shutdown_overdue :
    ∃ later, (Rounds.run overdue 3 1000 2 ⟨unanswered, .starting⟩).prober.journal =
        later ++ [.checked false, .checked false] ∧
      overdue.StopsFrom [.checked false, .checked false] ∧
      later.sends = 1 ∧ later.lines = ["0: ---\n"] ∧
      Remnant [] [.checked false, .checked false] later ∧
      ∃ q, ∀ m, 5 ≤ m → Rounds.run overdue 3 1000 m ⟨unanswered, .starting⟩ =
        ⟨q, .ended (.ok ())⟩ := by
  have hstop : overdue.StopsFrom [.checked false, .checked false] := by
    intro later
    simp [overdue]
  have hall : (Rounds.run overdue 3 1000 2 ⟨unanswered, .starting⟩).prober.journal =
      [.flushed none, .wrote "0: ---\n" none, .received (.error .wouldBlock),
        .noted (.probeSent 0 (Probe.build 0).length (.v4 .loopback 7)),
        .sent (.v4 .loopback 7) (Probe.build 0) (.ok (Probe.build 0).length)] ++
      [.checked false, .checked false] := rfl
  obtain ⟨hremnant, q, result, acts, hover, -, -⟩ :=
    (rounds_shutdown overdue 3 1000 unanswered).1 2 _ _ hall (List.nil_suffix) hstop
  have hresult : result = .ok () := by
    have hend : (Rounds.run overdue 3 1000 5 ⟨unanswered, .starting⟩).result? = some (.ok ()) := rfl
    rw [hover 5 (Nat.le_refl _)] at hend
    exact Option.some.inj hend
  subst hresult
  exact ⟨_, hall, hstop, rfl, rfl, hremnant, q, hover⟩

/-- The longest interval that the command line takes. -/
def longestInterval : Nat := CommandLine.Probe.millis 18446744073709551615

/-- With the longest interval that the command line takes, rounds of one ping break down at the end
of the first round, although the request to stop has come while the ping was under way. -/
theorem not_ok_of_stopsFrom :
    ¬ ∀ (u : Surroundings) (count interval : Nat) (p : Prober) (n : Nat) (later sofar : Journal),
      (Rounds.run u count interval n ⟨p, .starting⟩).prober.journal = later ++ sofar →
      p.journal <:+ sofar → u.StopsFrom sofar →
      ∃ q result acts,
        (∀ m, n + 3 ≤ m → Rounds.run u count interval m ⟨p, .starting⟩ = ⟨q, .ended result⟩) ∧
        q.journal = acts ++ p.journal ∧
        ((∀ a ∈ acts, a.failure? = none) → result = .ok () ∧ ∃ os, Printed acts os) := by
  intro h
  obtain ⟨interval, hinterval⟩ : ∃ interval, interval = longestInterval := ⟨_, rfl⟩
  obtain ⟨last, hlast⟩ : ∃ last : Prober,
    last = (Rounds.run overdue 1 interval 5 ⟨unanswered, .starting⟩).prober := ⟨_, rfl⟩
  have hend : Rounds.run overdue 1 interval 5 ⟨unanswered, .starting⟩ =
      ⟨last, .ended (.error .overflow)⟩ := by
    rw [hlast, hinterval]
    rfl
  have hok : ∀ a ∈ last.journal, a.failure? = none := by
    rw [hlast, hinterval]
    decide
  have hstop : overdue.StopsFrom [.checked false, .checked false] := by
    intro later
    simp [overdue]
  obtain ⟨q, result, acts, hover, hacts, hwell⟩ := h overdue 1 interval unanswered 2
    [.flushed none, .wrote "0: ---\n" none, .received (.error .wouldBlock),
      .noted (.probeSent 0 (Probe.build 0).length (.v4 .loopback 7)),
      .sent (.v4 .loopback 7) (Probe.build 0) (.ok (Probe.build 0).length)] _
    (by rw [hinterval]; rfl) List.nil_suffix hstop
  have hboth := (hover 5 (Nat.le_refl _)).symm.trans hend
  obtain ⟨rfl, hresult⟩ := Rounds.mk.inj hboth
  have hall : q.journal = acts := hacts.trans (List.append_nil acts)
  rw [hall] at hok
  rw [(hwell hok).1] at hresult
  cases hresult

end Prober

end PortEcho
