import Mathlib.Data.List.Chain
import PortEcho.Proofs.Responder.Reception

/-!
How far a drain gets.

A drain goes on until a call of receive would block, or until more calls have failed than are put up
with. It is the failed calls of the whole drain that count; datagrams between them do not set the
count back. So a drain ends however much there is to fail, and whatever was received by then is
handled. What a drain has left that gave up stays on the socket, and no poll learns of it by itself.
-/

namespace PortEcho.Responder

variable {queue : List Receipt} {inflow : Inflow} {n : Nat}

/-- No call would block, and no more have failed than are put up with. -/
def GoesOn (rs : List Receipt) : Prop := (∀ r ∈ rs, ¬ blocks r) ∧ rs.countP fails ≤ maxFaults

lemma goesOn_concat_iff {rs : List Receipt} {r : Receipt} :
    GoesOn (rs ++ [r]) ↔ GoesOn rs ∧ ¬ blocks r ∧ (fails r → rs.countP fails < maxFaults) := by
  unfold GoesOn
  rw [List.forall_mem_append, List.forall_mem_singleton, List.countP_append,
    List.countP_singleton]
  by_cases hf : fails r
  · rw [if_pos hf]
    constructor
    · rintro ⟨⟨hrs, hr⟩, hle⟩
      exact ⟨⟨hrs, by omega⟩, hr, fun _ => by omega⟩
    · rintro ⟨⟨hrs, -⟩, hr, hlt⟩
      have hless := hlt hf
      exact ⟨⟨hrs, hr⟩, by omega⟩
  · rw [if_neg hf, Nat.add_zero]
    constructor
    · rintro ⟨⟨hrs, hr⟩, hle⟩
      exact ⟨⟨hrs, hle⟩, hr, fun h => absurd h hf⟩
    · rintro ⟨⟨hrs, hle⟩, hr, -⟩
      exact ⟨⟨hrs, hr⟩, hle⟩

lemma goesOn_succ_iff : GoesOn (results queue inflow (n + 1)) ↔
    GoesOn (results queue inflow n) ∧ ¬ blocks (result queue inflow n) ∧
      (fails (result queue inflow n) → (results queue inflow n).countP fails < maxFaults) := by
  rw [results_succ, goesOn_concat_iff]

/-- Of a drain that goes on, each call but as many as may fail has given a datagram. -/
lemma GoesOn.le {d : Nat} (h : GoesOn (results queue inflow n))
    (hd : (datagramsIn (results queue inflow n)).length ≤ d) : n ≤ d + maxFaults := by
  have hlen := length_of_forall_not_blocks h.1
  rw [length_results] at hlen
  have hfaults := h.2
  omega

/-- The drain that began at `s` is under way at `t`, after `n` calls. -/
structure Underway (s t : Station) (inflow : Inflow) (n : Nat) (hs : List Handling) : Prop where
  heard : Heard s t (results s.queue inflow n) hs
    ((results s.queue inflow n).filterMap warning?)
  phase : t.phase = .draining hs.length ((results s.queue inflow n).countP fails)
  queue : t.queue ++ inflow n = backlog s.queue inflow n

/-- The drain that began at `s` is over at `t`, after `n + 1` calls. -/
structure Over (s t : Station) (inflow : Inflow) (n : Nat) (hs : List Handling) : Prop where
  heard : Heard s t (results s.queue inflow (n + 1)) hs
    ((results s.queue inflow (n + 1)).filterMap warning? ++
      if blocks (result s.queue inflow n) then [] else [.gaveUp maxFaults])
  phase : t.phase = .idle
  outcome : t.outcome = some (.ok hs.length)
  queue : t.queue = (backlog s.queue inflow n).tail

lemma filterMap_results_succ (queue : List Receipt) (inflow : Inflow) (n : Nat) :
    (results queue inflow (n + 1)).filterMap warning? =
      (results queue inflow n).filterMap warning? ++ (warning? (result queue inflow n)).toList := by
  rw [results_succ, List.filterMap_append]
  rcases h : warning? (result queue inflow n) with _ | x <;> simp [h]

lemma countP_results_succ (queue : List Receipt) (inflow : Inflow) (n : Nat) :
    (results queue inflow (n + 1)).countP fails =
      (results queue inflow n).countP fails + if fails (result queue inflow n) then 1 else 0 := by
  rw [results_succ, List.countP_append, List.countP_singleton]

section drain

variable {w : Surroundings} {s : Station} {gs : List Handling}

/-- The next call of a drain that is under way. -/
lemma Underway.took (hw : w.Prints) (h : Underway s (s.run w (calls inflow n)) inflow n gs) :
    ∃ s', Heard s s' (results s.queue inflow n) gs
        ((results s.queue inflow n).filterMap warning?) ∧
      Took gs.length ((results s.queue inflow n).countP fails) s'
        (s.run w (calls inflow (n + 1))) (result s.queue inflow n) ∧
      (s.run w (calls inflow (n + 1))).queue = (backlog s.queue inflow n).tail := by
  obtain ⟨s', hdesk, hqueue, hstep⟩ :=
    Station.step_receive w (s := (s.run w (calls inflow n)).letIn (inflow n)) h.phase
  have hback : ((s.run w (calls inflow n)).letIn (inflow n)).queue =
      backlog s.queue inflow n := h.queue
  rw [hback] at hqueue hstep
  rw [Station.run_calls_succ, hstep]
  exact ⟨s', h.heard.congr_desk hdesk, Station.took_take hw _ _ _ s',
    (Station.queue_take ..).trans hqueue⟩

/-- What the calls gave decides how far the drain gets: it is under way, or over with the first call
that would block or that fails once too often. -/
lemma Underway.next (hw : w.Prints) (hgo : GoesOn (results s.queue inflow n))
    (h : Underway s (s.run w (calls inflow n)) inflow n gs) :
    (GoesOn (results s.queue inflow (n + 1)) ∧
      ∃ gs, Underway s (s.run w (calls inflow (n + 1))) inflow (n + 1) gs) ∨
    (¬ GoesOn (results s.queue inflow (n + 1)) ∧
      ∃ gs, Over s (s.run w (calls inflow (n + 1))) inflow n gs) := by
  obtain ⟨s', hheard, htook, hqueue⟩ := h.took hw
  have hrest : (s.run w (calls inflow (n + 1))).queue ++ inflow (n + 1) =
      backlog s.queue inflow (n + 1) := by rw [hqueue]; rfl
  have hwarn := filterMap_results_succ s.queue inflow n
  have hcount := countP_results_succ s.queue inflow n
  cases htook with
  | handled g hb hf heard phase =>
    have hall := hheard.trans heard
    rw [← results_succ, ← hwarn] at hall
    simp only [if_neg hf, Nat.add_zero] at hcount
    refine .inl ⟨goesOn_succ_iff.mpr ⟨hgo, hb, fun hc => absurd hc hf⟩, gs ++ [g], hall, ?_, hrest⟩
    rw [phase, hcount, List.length_append, List.length_singleton]
  | blocked hb heard phase outcome =>
    have hall := hheard.trans heard
    rw [← results_succ, ← hwarn, List.append_nil] at hall
    refine .inr ⟨fun hc => (goesOn_succ_iff.mp hc).2.1 hb, gs, ?_, phase, outcome, hqueue⟩
    rwa [if_pos hb, List.append_nil]
  | failed hb hf hn heard phase =>
    have hall := hheard.trans heard
    rw [← results_succ, ← hwarn, List.append_nil] at hall
    rw [if_pos hf] at hcount
    refine .inl ⟨goesOn_succ_iff.mpr ⟨hgo, hb, fun _ => hn⟩, gs, hall, ?_, hrest⟩
    rw [phase, hcount]
  | gaveUp hb hf hn heard phase outcome =>
    have hall := hheard.trans heard
    have hmax : (results s.queue inflow n).countP fails = maxFaults := Nat.le_antisymm hgo.2 hn
    rw [← results_succ, ← List.append_assoc, ← hwarn, List.append_nil, hmax] at hall
    refine .inr ⟨fun hc => ?_, gs, ?_, phase, outcome, hqueue⟩
    · have hless := (goesOn_succ_iff.mp hc).2.2 hf
      omega
    · rwa [if_neg hb]

variable (hw : w.Prints) (hs : s.phase = .draining 0 0)

include hw hs

lemma exists_underway (h : GoesOn (results s.queue inflow n)) :
    ∃ gs, Underway s (s.run w (calls inflow n)) inflow n gs := by
  induction n with
  | zero => exact ⟨[], .of_desk rfl, hs, rfl⟩
  | succ n ih =>
    have hgo := (goesOn_succ_iff.mp h).1
    obtain ⟨gs, hgs⟩ := ih hgo
    rcases hgs.next hw hgo with ⟨-, hnext⟩ | ⟨hnot, -⟩
    · exact hnext
    · exact absurd h hnot

/-- A drain that no longer goes on was over with some call, and nothing was received since. -/
lemma exists_over (h : ¬ GoesOn (results s.queue inflow n)) :
    ∃ k < n, GoesOn (results s.queue inflow k) ∧ ¬ GoesOn (results s.queue inflow (k + 1)) ∧
      ∃ gs, Over s (s.run w (calls inflow (k + 1))) inflow k gs := by
  induction n with
  | zero => exact absurd ⟨List.forall_mem_nil _, Nat.zero_le _⟩ h
  | succ n ih =>
    by_cases hgo : GoesOn (results s.queue inflow n)
    · obtain ⟨gs, hgs⟩ := exists_underway hw hs hgo
      rcases hgs.next hw hgo with ⟨hgoes, -⟩ | ⟨hnot, hover⟩
      · exact absurd hgoes h
      · exact ⟨n, Nat.lt_succ_self n, hgo, hnot, hover⟩
    · obtain ⟨k, hk, hover⟩ := ih hgo
      exact ⟨k, Nat.lt_succ_of_lt hk, hover⟩

/-- A drain is over just if what the calls gave does not let it go on. -/
lemma idle_iff :
    (s.run w (calls inflow n)).phase = .idle ↔ ¬ GoesOn (results s.queue inflow n) := by
  constructor
  · intro hidle hgo
    obtain ⟨gs, hgs⟩ := exists_underway hw hs hgo
    rw [hgs.phase] at hidle
    cases hidle
  · intro h
    obtain ⟨k, hk, -, -, gs, hgs⟩ := exists_over hw hs h
    exact (Station.run_calls_of_idle hgs.phase hk).1

/-- Where no call would block, a drain is over just if more calls have failed than are put up
with. -/
lemma idle_iff_lt (h : ∀ i < n, ¬ blocks (result s.queue inflow i)) :
    (s.run w (calls inflow n)).phase = .idle ↔
      maxFaults < (results s.queue inflow n).countP fails := by
  rw [idle_iff hw hs, GoesOn, not_and, Nat.not_le]
  exact ⟨fun hlt => hlt (forall_mem_results.mpr h), fun hlt _ => hlt⟩

end drain

/-- **Giving up.** A drain that meets no call that would block is over just if more calls have
failed in it than are put up with, whatever datagrams came between them. Then it has received
nothing after the fault that was one too many, and leaves all that was queued behind it; a poll that
is not told of anything new succeeds, handles nothing and leaves it too. -/
theorem drain_givesUp_iff {w : Surroundings} (hw : w.Prints) {s : Station}
    (hs : s.phase = .draining 0 0) {inflow : Inflow} {n : Nat}
    (hn : ∀ i < n, ¬ blocks (result s.queue inflow i)) {t : Station}
    (ht : t = s.run w (calls inflow n)) :
    (t.phase = .idle ↔ maxFaults < (results s.queue inflow n).countP fails) ∧
    (t.phase = .idle → ∃ k ≤ n,
      (results s.queue inflow k).countP fails = maxFaults + 1 ∧
      t.journal.receipts = s.journal.receipts ++
        (results s.queue inflow k).map (·.map (Datagram.cut bufferSize)) ∧
      s.queue ++ arrivals (calls inflow n) = results s.queue inflow k ++ t.queue) ∧
    (t.phase = .idle → t.signal = false → w.poll t.journal = none →
      (t.step w .poll).outcome = some (.ok 0) ∧ (t.step w .poll).phase = .idle ∧
        (t.step w .poll).queue = t.queue) := by
  subst ht
  refine ⟨idle_iff_lt hw hs hn, fun hidle => ?_, fun hidle hsignal hpoll => ?_⟩
  · obtain ⟨k, hk, hgo, hnot, gs, hover⟩ := exists_over hw hs ((idle_iff hw hs).mp hidle)
    have hblocks : ¬ blocks (result s.queue inflow k) := hn k hk
    have hblocks' : ∀ i < k, ¬ blocks (result s.queue inflow i) :=
      fun i hi => hn i (Nat.lt_trans hi hk)
    obtain ⟨-, hdesk, -, later, harrived, hqueue⟩ := Station.run_calls_of_idle hover.phase hk
    refine ⟨k + 1, hk, ?_, ?_, ?_⟩
    · have hlt : maxFaults < (results s.queue inflow (k + 1)).countP fails := by
        refine (idle_iff_lt hw hs fun i hi => ?_).mp hover.phase
        exact hn i (Nat.lt_of_lt_of_le hi hk)
      have hmax := hgo.2
      have hcount := countP_results_succ s.queue inflow k
      split at hcount <;> omega
    · rw [Station.journal, hdesk]
      exact hover.heard.receipts
    · calc s.queue ++ arrivals (calls inflow n)
          = s.queue ++ arrivals (calls inflow k) ++ inflow k ++ later := by
            rw [harrived, arrivals_calls_succ]
            simp
        _ = results s.queue inflow k ++ backlog s.queue inflow k ++ later := by
            rw [results_append_backlog hblocks']
        _ = results s.queue inflow (k + 1) ++ (s.run w (calls inflow n)).queue := by
            rw [backlog_eq_cons hblocks, results_succ, hqueue, hover.queue]
            simp
  · rw [Station.step_poll w hidle]
    rcases (s.run w (calls inflow n)).beginPoll_cases w with ⟨e, he, -⟩ | ⟨-, hs', -⟩ | ⟨-, -, hb⟩
    · rw [hpoll] at he
      cases he
    · rw [hsignal] at hs'
      cases hs'
    · rw [hb]
      exact ⟨rfl, rfl, rfl⟩

lemma prints_default : Surroundings.Prints {} := ⟨fun _ => rfl, fun _ => rfl⟩

def reset : Fault := .system 104

/-- Failed calls and datagrams take turns, and the socket is polled. -/
def alternating : List Event :=
  (List.replicate 17 [.arrive (.error reset), .arrive (call 1 1)]).flatten ++ [.poll]

/-- The station at the beginning of the drain. -/
def torn : Station := (Station.listen {} ⟨7⟩).2.run {} alternating

lemma not_blocks_torn : ∀ i < 33, ¬ blocks (result torn.queue (fun _ => []) i) := by
  decide

lemma lt_fails_torn : maxFaults < (results torn.queue (fun _ => []) 33).countP fails := by
  decide

/-- The drain gives up, although each fault but the first came right after a datagram. The last
datagram stays, and the next poll leaves it. -/
theorem drain_givesUp_iff_alternating :
    torn.phase = .draining 0 0 ∧ (∀ i < 33, ¬ blocks (result torn.queue (fun _ => []) i)) ∧
      (torn.run {} (calls (fun _ => []) 33)).phase = .idle ∧
      (torn.run {} (calls (fun _ => []) 33)).queue = [call 1 1] ∧
      ((torn.run {} (calls (fun _ => []) 33)).step {} .poll).outcome = some (.ok 0) ∧
      ((torn.run {} (calls (fun _ => []) 33)).step {} .poll).queue = [call 1 1] := by
  have hphase : torn.phase = .draining 0 0 := rfl
  obtain ⟨hiff, -, hpoll⟩ := drain_givesUp_iff prints_default hphase not_blocks_torn rfl
  have hidle := hiff.mpr lt_fails_torn
  have hqueue : (torn.run {} (calls (fun _ => []) 33)).queue = [call 1 1] := by decide
  obtain ⟨houtcome, -, hstays⟩ := hpoll hidle (by decide) rfl
  exact ⟨hphase, not_blocks_torn, hidle, hqueue, houtcome, hstays.trans hqueue⟩

/-- A drain may give up without ever meeting as many faults in a row as it puts up with; not even
two came one right after the other. -/
theorem not_consecutive_of_givesUp :
    ¬ ∀ (w : Surroundings) (settings : Settings) (es : List Event) (s : Station) (inflow : Inflow)
      (n : Nat), w.Prints → s = (Station.listen w settings).2.run w es →
      s.phase = .draining 0 0 → (∀ i < n, ¬ blocks (result s.queue inflow i)) →
      (s.run w (calls inflow n)).phase = .idle →
      ∃ front faults back, results s.queue inflow n = front ++ faults ++ back ∧
        faults.length = maxFaults + 1 ∧ ∀ r ∈ faults, fails r := by
  intro h
  have hidle := (idle_iff_lt prints_default (s := torn) rfl not_blocks_torn).mpr lt_fails_torn
  obtain ⟨front, faults, back, hsplit, hlen, hfaults⟩ :=
    h {} ⟨7⟩ alternating torn _ 33 prints_default rfl rfl not_blocks_torn hidle
  have hturns : (results torn.queue (fun _ => []) 33).IsChain fun r q => ¬ (fails r ∧ fails q) := by
    decide
  rw [hsplit] at hturns
  have hchain := (List.isChain_append.mp (List.isChain_append.mp hturns).1).2.1
  rcases faults with _ | ⟨r, _ | ⟨q, rest⟩⟩
  · cases hlen
  · cases hlen
  · refine (List.isChain_cons_cons.mp hchain).1 ⟨hfaults r ?_, hfaults q ?_⟩
    · exact List.mem_cons_self
    · exact List.mem_cons_of_mem _ List.mem_cons_self

/-- **The end of a drain.** Whatever calls of receive give for ever, as long as no more than `d`
datagrams are among it, a drain is over with one of the first `d + maxFaults + 1` calls, and
succeeds. Only that last call may have been one that would block. What was received by then, and
nothing else, was received; the datagrams among it were handled, each once and in their order, and
the number of them is what the drain gives and what the tally went up by. Each fault of which one is
to be warned is warned of, and that the drain gives up is told just if no call would block. -/
theorem drain_ends {w : Surroundings} (hw : w.Prints) {s : Station}
    (hs : s.phase = .draining 0 0) (inflow : Inflow) {d : Nat}
    (hd : ∀ n, (datagramsIn (results s.queue inflow n)).length ≤ d) :
    ∃ k gs, k ≤ d + maxFaults + 1 ∧
      (∀ n < k, (s.run w (calls inflow n)).phase ≠ .idle) ∧
      (∀ i, i + 1 < k → ¬ blocks (result s.queue inflow i)) ∧
      ∀ n, k ≤ n → ∀ t, t = s.run w (calls inflow n) →
        t.phase = .idle ∧ t.outcome = some (.ok gs.length) ∧
          Heard s t (results s.queue inflow k) gs
            ((results s.queue inflow k).filterMap warning? ++
              if (results s.queue inflow k).any blocks then [] else [.gaveUp maxFaults]) := by
  have hnot : ¬ GoesOn (results s.queue inflow (d + maxFaults + 1)) := by
    intro hgo
    have hle := hgo.le (hd _)
    omega
  obtain ⟨k, hk, hgo, -, gs, hover⟩ := exists_over hw hs hnot
  have hblocks : ∀ i < k, ¬ blocks (result s.queue inflow i) := forall_mem_results.mp hgo.1
  have hany : (results s.queue inflow (k + 1)).any blocks = blocks (result s.queue inflow k) := by
    have hfront : (results s.queue inflow k).any blocks = false :=
      List.any_eq_false.mpr hgo.1
    rw [results_succ, List.any_append, hfront]
    simp
  refine ⟨k + 1, gs, hk, ?_, ?_, ?_⟩
  · intro n hn hidle
    have hstays := (Station.run_calls_of_idle hidle (Nat.le_of_lt_succ hn)).1
    exact (idle_iff hw hs).mp hstays hgo
  · intro i hi
    exact hblocks i (Nat.lt_of_succ_lt_succ hi)
  · intro n hn t ht
    obtain ⟨hidle, hdesk, houtcome, -⟩ := Station.run_calls_of_idle hover.phase hn
    subst ht
    rw [hany]
    exact ⟨hidle, houtcome.trans hover.outcome, hover.heard.congr_desk hdesk⟩

/-- Two datagrams among faults, and from then on faults only. -/
def failing : Nat → Receipt
  | 0 => .error (.bare .interrupted)
  | 1 => call 1 1
  | 3 => call 2 2
  | _ => .error reset

/-- The socket has signalled that something came in after the poll before, which has taken it. -/
def hollow : Station :=
  (Station.listen {} ⟨7⟩).2.run {} ([.arrive (call 3 3), .poll, .arrive (call 3 4)] ++
    [.receive, .receive, .receive, .poll])

lemma datagramsIn_failing (n : Nat) :
    (datagramsIn (results hollow.queue (fun i => [failing i]) n)).length ≤ 2 := by
  have hempty : hollow.queue = [] := rfl
  have hresult : ∀ i, result hollow.queue (fun i => [failing i]) i = failing i :=
    fun i => hempty ▸ result_singly failing i
  rcases Nat.lt_or_ge n 5 with hn | hn
  · revert n
    decide
  · induction n, hn using Nat.le_induction with
    | base => decide
    | succ n hn ih =>
      obtain ⟨m, rfl⟩ := Nat.exists_eq_add_of_le' hn
      have hlast : datagramsIn [failing (m + 5)] = [] := rfl
      rw [results_succ, hresult, datagramsIn_append, hlast, List.append_nil]
      exact ih

/-- The drain takes all the calls that it may take. -/
theorem drain_ends_failing :
    hollow.phase = .draining 0 0 ∧
      (∀ n, (datagramsIn (results hollow.queue (fun i => [failing i]) n)).length ≤ 2) ∧
      (hollow.run {} (calls (fun i => [failing i]) 18)).phase = .draining 2 16 ∧
      (hollow.run {} (calls (fun i => [failing i]) 19)).phase = .idle ∧
      (hollow.run {} (calls (fun i => [failing i]) 19)).outcome = some (.ok 2) ∧
      (hollow.run {} (calls (fun i => [failing i]) 19)).desk.tally.received =
        hollow.desk.tally.received + 2 := by
  have hphase : hollow.phase = .draining 0 0 := rfl
  obtain ⟨k, gs, hk, -, -, hend⟩ :=
    drain_ends prints_default hphase (fun i => [failing i]) datagramsIn_failing
  obtain ⟨hidle, houtcome, hheard⟩ := hend 19 hk _ rfl
  have htwo : (hollow.run {} (calls (fun i => [failing i]) 19)).outcome = some (.ok 2) := by decide
  have hlen : gs.length = 2 :=
    Except.ok.inj (Option.some.inj (houtcome.symm.trans htwo))
  refine ⟨hphase, datagramsIn_failing, by decide, hidle, htwo, ?_⟩
  rw [hheard.received, hlen]
  rfl

end PortEcho.Responder
