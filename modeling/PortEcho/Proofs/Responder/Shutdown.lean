import PortEcho.Proofs.Responder.Leftovers

/-!
A service that is asked to stop.

The request is not looked for within a drain, and a drain goes on as long as something is queued. So
what comes in during the drain is handled too, and delays the end: what is handled after the request
has no bound of its own. But no other poll begins, and the end comes with the first call of receive
that finds nothing.
-/

namespace PortEcho

def Act.isPoll : Act → Bool
  | .polled _ => true
  | _ => false

/-- How many polls have begun. -/
def Journal.polls (j : Journal) : Nat := j.countP Act.isPoll

namespace Responder

@[simp] lemma Handling.polls_acts (h : Handling) : Journal.polls h.acts = 0 := by
  obtain ⟨d, t, f⟩ := h
  cases f <;> simp [acts, printed, opening, Act.isPoll, Journal.polls]

namespace Station

variable {w : Surroundings} {m n : Nat}

lemma queue_take (w : Surroundings) (m n : Nat) (r : Receipt) (s : Station) :
    (s.take w m n r).queue = s.queue := by
  rcases r with e | d
  · rw [take_error]
    rcases Verdict.ofFault e with _ | _
    · rfl
    · by_cases hn : n < maxFaults <;> simp [hn, finish, note, enter]
  · rw [take_ok w m n rfl]
    rcases (s.desk.handling w d).fault? with _ | e <;> rfl

/-- Within a drain, something is taken from the queue, or the drain is over. -/
lemma receive_shortens {s : Station} (h : s.phase = .draining m n) :
    (s.step w .receive).phase = .idle ∨
      (s.step w .receive).queue.length + 1 = s.queue.length := by
  rcases hq : s.queue with _ | ⟨r, rest⟩
  · rw [step_receive_nil w h hq, take_wouldBlock]
    exact .inl rfl
  · rw [step_receive_cons w h hq, queue_take]
    exact .inr rfl

lemma polls_take (w : Surroundings) (m n : Nat) (r : Receipt) (s : Station) :
    (s.take w m n r).journal.polls = s.journal.polls := by
  rcases r with e | d
  · have hnotes : ((Verdict.notices e).map Act.noted).reverse.countP Act.isPoll = 0 := by
      refine List.countP_eq_zero.mpr fun a ha => ?_
      obtain ⟨k, -, rfl⟩ := List.mem_map.mp (List.mem_reverse.mp ha)
      simp [Act.isPoll]
    rw [take_error]
    rcases Verdict.ofFault e with _ | _
    · simp [finish, journal, Journal.polls, hnotes, Act.isPoll]
    · by_cases hn : n < maxFaults
      · simp [hn, journal, Journal.polls, hnotes, Act.isPoll]
      · simp [hn, finish, note, enter, Desk.enter, journal, Journal.polls, hnotes, Act.isPoll]
  · obtain ⟨h, hh⟩ : ∃ h, h = s.desk.handling w d := ⟨_, rfl⟩
    have hacts : Journal.polls (h.acts ++ s.journal) = s.journal.polls := by
      have happ : Journal.polls (h.acts ++ s.journal) = Journal.polls h.acts + s.journal.polls :=
        List.countP_append
      rw [happ, Handling.polls_acts, Nat.zero_add]
    rw [take_ok w m n hh]
    rcases h.fault? with _ | e <;> exact hacts

end Station

namespace Service

variable {w : Surroundings} {s : Service} {t : Station} {m n : Nat}

lemma turn_checking_of_stop (h : w.stop t.journal = true) :
    ∃ summary, turn w ⟨t, .checking⟩ =
      ⟨(t.enter (.checked true)).note (.stopping summary), .ended (.ok t.desk.tally)⟩ := by
  refine ⟨t.desk.tally.summary (w.clock (t.enter (.checked true)).journal), ?_⟩
  simp only [turn, check, h]
  rfl

lemma turn_of_ended (h : s.result?.isSome) : s.turn w = s := by
  obtain ⟨s, _ | _ | result⟩ := s
  · cases h
  · cases h
  · rfl

lemma turn_polling_idle (w : Surroundings) (h : t.phase = .idle) :
    turn w ⟨t, .polling⟩ = leave ⟨t, .polling⟩ := by
  simp [turn, h]

lemma turn_polling_draining (w : Surroundings) (h : t.phase = .draining m n) :
    turn w ⟨t, .polling⟩ = ⟨(letIn w t).step w .receive, .polling⟩ := by
  simp [turn, h]

/-- Turns that are left at most once the request to stop has come, if nothing more comes in. -/
def ahead (s : Service) : Nat :=
  match s.stage with
  | .ended _ => 0
  | .checking => 1
  | .polling =>
    match s.station.phase with
    | .idle => 2
    | .draining .. => s.station.queue.length + 3

lemma ahead_le (s : Service) : s.ahead ≤ s.station.queue.length + 3 := by
  unfold ahead
  rcases s with ⟨s, _ | _ | result⟩
  · simp
  · rcases s.phase with _ | ⟨m, n⟩ <;> simp
  · simp

/-- A turn brings the end nearer, up to what comes in by it. -/
lemma ahead_turn (h : s.result? = none) (hstop : w.stop s.journal = true) :
    (s.turn w).ahead + 1 ≤ s.ahead + (s.enters w).length := by
  rcases s with ⟨s, _ | _ | result⟩
  · obtain ⟨summary, hturn⟩ := turn_checking_of_stop hstop
    rw [hturn]
    simp [ahead]
  · rcases hph : s.phase with _ | ⟨m, n⟩
    · -- the poll is over
      have hleave : (leave ⟨s, .polling⟩).ahead ≤ 1 := by
        unfold leave
        rcases s.outcome with _ | e | _ <;> simp [ahead]
      have hbefore : ahead ⟨s, .polling⟩ = 2 := by simp [ahead, hph]
      rw [turn_polling_idle w hph, hbefore]
      omega
    · have hqueue : (letIn w s).queue.length = s.queue.length + (w.arrivals s.journal).length :=
        List.length_append
      have henters : enters w ⟨s, .polling⟩ = w.arrivals s.journal := by
        simp [enters, hph, journal]
      have hbefore : ahead ⟨s, .polling⟩ = s.queue.length + 3 := by simp [ahead, hph]
      rw [turn_polling_draining w hph, henters, hbefore]
      rcases Station.receive_shortens (w := w) (s := letIn w s) hph with hidle | hless
      · simp only [ahead, hidle]
        omega
      · have hafter := ahead_le ⟨(letIn w s).step w .receive, .polling⟩
        simp only at hafter
        omega
  · cases h

/-- The request to stop keeps a turn from beginning a poll. -/
lemma polls_turn (hstop : w.stop s.journal = true) :
    (s.turn w).journal.polls = s.journal.polls := by
  rcases s with ⟨s, _ | _ | result⟩
  · obtain ⟨summary, hturn⟩ := turn_checking_of_stop hstop
    rw [hturn]
    exact List.countP_cons_of_neg nofun
  · rcases hph : s.phase with _ | ⟨m, n⟩
    · rw [turn_polling_idle w hph]
      unfold leave
      rcases s.outcome with _ | e | _ <;> rfl
    · have hdrain : (letIn w s).phase = .draining m n := hph
      have hstep : ((letIn w s).step w .receive).journal.polls = s.journal.polls := by
        rcases hq : (letIn w s).queue with _ | ⟨r, rest⟩
        · rw [Station.step_receive_nil w hdrain hq, Station.polls_take]
          rfl
        · rw [Station.step_receive_cons w hdrain hq, Station.polls_take]
          rfl
      rw [turn_polling_draining w hph]
      exact hstep
  · rfl

lemma journal_turn (w : Surroundings) (s : Service) : s.journal <:+ (s.turn w).journal := by
  obtain ⟨taken, hs, -, h⟩ := s.advance_enters w
  exact h.account.suffix

/-- Once the request to stop has come, no poll begins, and the service ends as soon as it has had
turns enough for what comes in. -/
lemma stopped_run (hstop : w.StopsFrom s.journal) (n : Nat) :
    (s.run w n).journal.polls = s.journal.polls ∧
      (s.ahead + (s.arrivedIn w n).length ≤ n → (s.run w n).result?.isSome) := by
  induction n generalizing s with
  | zero =>
    refine ⟨rfl, fun h => ?_⟩
    have hnone : s.ahead = 0 := by
      simp only [arrivedIn, List.length_nil] at h
      omega
    rcases s with ⟨s, _ | _ | result⟩
    · cases hnone
    · rcases hph : s.phase with _ | ⟨m, n⟩ <;> simp [ahead, hph] at hnone
    · rfl
  | succ n ih =>
    by_cases hr : s.result?.isSome
    · rw [run_of_ended hr]
      exact ⟨rfl, fun _ => hr⟩
    · have hnone : s.result? = none := by simpa using hr
      have hnow : w.stop s.journal = true := hstop []
      have hless := ahead_turn hnone hnow
      obtain ⟨hpolls, hend⟩ := ih (hstop.mono (journal_turn w s))
      rw [run_succ hr, hpolls, polls_turn hnow]
      refine ⟨rfl, fun h => hend ?_⟩
      simp only [arrivedIn, List.length_append] at h
      omega

/-- No more is handled than was queued and has come in. -/
lemma handled_run (w : Surroundings) (s : Service) (n : Nat) :
    (s.run w n).journal.datagrams.length ≤
      s.journal.datagrams.length + s.station.queue.length + (s.arrivedIn w n).length := by
  obtain ⟨taken, hs, h⟩ := s.advance_arrivedIn w n
  have hqueue : s.station.queue.length + (s.arrivedIn w n).length =
      taken.length + (s.run w n).station.queue.length := by
    simpa using congrArg List.length h.queue
  have hlen : hs.length ≤ taken.length := by
    have hmap : hs.length = (datagramsIn taken).length := by
      simpa using congrArg List.length h.datagrams
    rw [hmap]
    exact List.length_filterMap_le ..
  have hdatagrams : (s.run w n).journal.datagrams.length =
      s.journal.datagrams.length + hs.length := by
    have happ := congrArg List.length h.account.datagrams
    rwa [List.length_append, List.length_map] at happ
  omega

end Service

/-- **Shutdown.** When the request to stop comes, before a turn or within it, no poll begins after
that turn. What is handled from then on was queued or comes in while the drain goes on, and the
service has ended once it has had a turn for each of these and four more. -/
theorem shutdown_run {w : Surroundings} {s : Service} (hstop : w.StopsFrom (s.turn w).journal)
    (n : Nat) :
    (s.run w (n + 1)).journal.polls = (s.turn w).journal.polls ∧
    (s.run w n).journal.datagrams.length ≤
      s.journal.datagrams.length + s.station.queue.length + (s.arrivedIn w n).length ∧
    (s.station.queue.length + (s.arrivedIn w n).length + 4 ≤ n → (s.run w n).result?.isSome) := by
  refine ⟨?_, s.handled_run w n, fun h => ?_⟩
  · by_cases hr : s.result?.isSome
    · rw [Service.run_of_ended hr, Service.turn_of_ended hr]
    · rw [Service.run_succ hr]
      exact (Service.stopped_run hstop n).1
  · by_cases hr : s.result?.isSome
    · rwa [Service.run_of_ended hr]
    · obtain ⟨n, rfl⟩ : ∃ k, n = k + 1 := ⟨n - 1, by omega⟩
      obtain ⟨taken, hs, -, hturn⟩ := s.advance_enters w
      have hqueue : s.station.queue.length + (s.enters w).length =
          taken.length + (s.turn w).station.queue.length := by
        simpa using congrArg List.length hturn.queue
      have hahead := (s.turn w).ahead_le
      rw [Service.run_succ hr]
      refine (Service.stopped_run hstop n).2 ?_
      simp only [Service.arrivedIn, List.length_append] at h
      omega

/-- A request that comes with the first datagram stays. -/
lemma stopsFrom_of_taken {w : Surroundings} (hw : ∀ j, w.stop j = decide (1 ≤ j.datagrams.length))
    {j : Journal} (h : 1 ≤ j.datagrams.length) : w.StopsFrom j := by
  intro later
  rw [hw, Journal.datagrams_append, List.length_append]
  exact decide_eq_true (Nat.le_trans h (Nat.le_add_right ..))

/-- Datagrams come in one by one until three are taken, and the request to stop comes with the
first. -/
def trickling : Surroundings where
  stop j := decide (1 ≤ j.datagrams.length)
  arrivals j := if j.datagrams.length < 3 then [call 1 1] else []

/-- The request comes with the first datagram of a drain, and two more come in after it. -/
theorem shutdown_run_trickling :
    let s := Service.run trickling 2 ⟨(Station.listen trickling ⟨7⟩).2, .checking⟩
    trickling.StopsFrom (s.turn trickling).journal ∧ s.station.queue.length = 1 ∧
      (s.arrivedIn trickling 7).length = 2 ∧
      (s.run trickling 8).journal.polls = (s.turn trickling).journal.polls ∧
      (s.run trickling 7).journal.datagrams.length ≤ s.journal.datagrams.length + 1 + 2 ∧
      (s.run trickling 7).result?.isSome := by
  intro s
  have hstop : trickling.StopsFrom (s.turn trickling).journal :=
    stopsFrom_of_taken (fun _ => rfl) (by decide)
  have hqueue : s.station.queue.length = 1 := by decide
  have harrived : (s.arrivedIn trickling 7).length = 2 := by decide
  obtain ⟨hpolls, hhandled, hend⟩ := shutdown_run hstop 7
  rw [hqueue, harrived] at hhandled hend
  exact ⟨hstop, hqueue, harrived, hpolls, hhandled, hend (Nat.le_refl _)⟩

/-- The responder's own address. -/
def mirror : Endpoint := .v4 .loopback 7

/-- A datagram comes in that seems to come from the responder itself, so its replies come back to
it. The request to stop comes as soon as one was taken. -/
def mirrored : Surroundings where
  stop j := decide (1 ≤ j.datagrams.length)
  arrivals j :=
    match j with
    | .sent dest bytes (.ok n) :: _ => if dest = mirror then [.ok ⟨mirror, bytes.take n⟩] else []
    | .checked _ :: _ => [.ok ⟨mirror, [1]⟩]
    | _ => []

/-- The service has taken so many datagrams, and the last reply is on its way back. -/
structure Echoing (k : Nat) (s : Service) : Prop where
  polling : s.stage = .polling
  draining : ∃ m, s.station.phase = .draining m 0
  queue : s.station.queue = []
  sent : ∃ j, s.journal = .sent mirror [1] (.ok 1) :: j
  taken : s.journal.datagrams.length = k

namespace Echoing

variable {k : Nat} {s : Service}

/-- The reply comes back in and is answered. -/
lemma turn (h : Echoing k s) : Echoing (k + 1) (s.turn mirrored) := by
  obtain ⟨⟨⟨t, i⟩, queue, signal, phase, outcome, buffer⟩, stage⟩ := s
  obtain ⟨rfl, ⟨m, rfl⟩, rfl, ⟨j, hj⟩, htaken⟩ := h
  obtain rfl : i = .sent mirror [1] (.ok 1) :: j := hj
  obtain ⟨line, hjournal⟩ : ∃ line, (Service.turn mirrored ⟨⟨⟨t, .sent mirror [1] (.ok 1) :: j⟩, [],
      signal, .draining m 0, outcome, buffer⟩, .polling⟩).journal = .sent mirror [1] (.ok 1) ::
        .flushed none :: .wrote line none :: .noted (.received 1 mirror) ::
        .received (.ok ⟨mirror, [1]⟩) :: .sent mirror [1] (.ok 1) :: j := ⟨_, rfl⟩
  refine ⟨rfl, ⟨m + 1, rfl⟩, rfl, ⟨_, hjournal⟩, ?_⟩
  rw [hjournal, ← htaken]
  simp [Act.datagram?, Service.journal, Station.journal]

lemma run (h : Echoing k s) (n : Nat) : Echoing (k + n) (s.run mirrored n) := by
  induction n generalizing k s with
  | zero => exact h
  | succ n ih =>
    have hgoing : ¬ s.result?.isSome := by simp [Service.result?, h.polling]
    rw [Service.run_succ hgoing, Nat.add_comm n 1, ← Nat.add_assoc]
    exact ih h.turn

end Echoing

/-- What is handled after the request to stop is not bounded by what is queued when it comes. -/
theorem not_bounded_of_stop :
    ¬ ∃ bound, ∀ (w : Surroundings) (settings : Settings) (m n : Nat) (s t : Service),
      s = Service.run w m ⟨(Station.listen w settings).2, .checking⟩ → t = s.run w n →
      w.StopsFrom s.journal →
      t.journal.datagrams.length ≤
        s.journal.datagrams.length + s.station.queue.length + bound := by
  rintro ⟨bound, h⟩
  obtain ⟨s, hs⟩ : ∃ s, s = Service.run mirrored 2 ⟨(Station.listen mirrored ⟨7⟩).2, .checking⟩ :=
    ⟨_, rfl⟩
  have hecho : Echoing 1 s := by
    rw [hs]
    exact ⟨rfl, ⟨1, rfl⟩, rfl, ⟨_, rfl⟩, rfl⟩
  have hstop : mirrored.StopsFrom s.journal :=
    stopsFrom_of_taken (fun _ => rfl) (Nat.le_of_eq hecho.taken.symm)
  have hle := h mirrored ⟨7⟩ 2 (bound + 1) s _ hs rfl hstop
  rw [(hecho.run (bound + 1)).taken, hecho.taken, hecho.queue, List.length_nil] at hle
  omega

end Responder

end PortEcho
