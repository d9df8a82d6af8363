import PortEcho.Proofs.Responder.Account

/-!
What a poll leaves on the socket.

A poll that learns of the socket's signal and succeeds leaves nothing. But the signal is taken away
before the drain, so what a drain that was cut short by the output has left is not learned of by
the polls after it: they succeed and leave it, until something else comes in. On a socket without
faults this, and a wait that was interrupted, are the only ways to leave something.
-/

namespace PortEcho

/-- The last drain was cut short by the output. -/
def Journal.cutShort : Journal → Bool
  | [] => false
  | .polled (.ok true) :: _ => false
  | .wrote _ (some _) :: _ | .flushed (some _) :: _ => true
  | _ :: j => cutShort j

namespace Responder

/-- Nothing but datagrams. -/
def Faultless (rs : List Receipt) : Prop := ∀ r ∈ rs, ∃ d, r = .ok d

/-- After `poll`, the events `es` bring the poll that begins at `s` to its end at `t`. -/
structure Call (w : Surroundings) (s : Station) (es : List Event) (t : Station) : Prop where
  idle : s.phase = .idle
  run : t = (s.step w .poll).run w es
  under : ∀ es₁ es₂, es = es₁ ++ es₂ → es₂ ≠ [] → ((s.step w .poll).run w es₁).phase ≠ .idle
  ended : t.phase = .idle

/-- All that has come in by `es` was handled. -/
def AllHandled (es : List Event) (s : Station) : Prop :=
  (datagramsIn (arrivals es)).map (Datagram.cut bufferSize) <+: s.journal.datagrams

/-- What is queued was left by a drain cut short, and nothing has come in since the signal was last
taken away. -/
structure Stranded (s : Station) : Prop where
  queued : s.queue ≠ []
  silent : s.signal = false
  cutShort : s.journal.cutShort

/-- What holds at every station whose socket has no faults. -/
structure Attentive (s : Station) : Prop where
  faultless : Faultless s.queue
  stranded : s.phase = .idle → s.signal = false → s.queue ≠ [] → s.journal.cutShort

lemma Handling.cutShort_acts {h : Handling} {e : Fault} (hf : h.fault? = some e) (j : Journal) :
    Journal.cutShort (h.acts ++ j) := by
  rcases hg : h.fate with e' | e' | e' | n
  · simp [acts, hg, Journal.cutShort]
  · simp [acts, hg, Journal.cutShort]
  · simp [fault?, hg] at hf
  · simp [fault?, hg] at hf

namespace Station

variable {w : Surroundings} {s t : Station} {m n : Nat}

lemma take_wouldBlock (w : Surroundings) (m n : Nat) (s : Station) :
    s.take w m n (.error .wouldBlock) = (s.enter (.received (.error .wouldBlock))).finish (.ok m) :=
  rfl

/-- A drain goes on, ends at an empty queue, or is cut short by the output. -/
lemma draining_step (hp : s.phase = .draining m n) (hq : Faultless s.queue) (e : Event) :
    (∃ m', (s.step w e).phase = .draining m' n) ∨
    ((s.step w e).phase = .idle ∧ (s.step w e).queue = [] ∧ (s.step w e).outcome = some (.ok m)) ∨
    ((s.step w e).phase = .idle ∧ (s.step w e).journal.cutShort ∧
      ∃ f, (s.step w e).outcome = some (.error f)) := by
  rcases e with r | _ | _
  · exact .inl ⟨m, hp⟩
  · rw [step_poll_draining w hp]
    exact .inl ⟨m, hp⟩
  · rcases hs : s.queue with _ | ⟨r, rest⟩
    · rw [step_receive_nil w hp hs, take_wouldBlock]
      exact .inr (.inl ⟨rfl, hs, rfl⟩)
    · obtain ⟨d, rfl⟩ := hq r (by simp [hs])
      rw [step_receive_cons w hp hs]
      obtain ⟨h, hh⟩ : ∃ h, h = (s.without (.ok d) rest).desk.handling w (d.cut bufferSize) :=
        ⟨_, rfl⟩
      have hmap : (Except.ok d : Receipt).map (Datagram.cut bufferSize) =
        .ok (d.cut bufferSize) := rfl
      rw [hmap, take_ok w m n hh]
      rcases hf : h.fault? with _ | f
      · exact .inl ⟨m + 1, rfl⟩
      · exact .inr (.inr ⟨rfl, Handling.cutShort_acts hf _, f, rfl⟩)

/-- A poll fails to wait, learns of the signal and drains, or learns of none. -/
lemma beginPoll_cases (w : Surroundings) (s : Station) :
    (∃ e, w.poll s.journal = some e ∧
      s.beginPoll w = (s.enter (.polled (.error e))).finish (failedWait e)) ∨
    (w.poll s.journal = none ∧ s.signal = true ∧ s.beginPoll w =
      { s.enter (.polled (.ok true)) with signal := false, phase := .draining 0 0 }) ∨
    (w.poll s.journal = none ∧ s.signal = false ∧ s.beginPoll w =
      ({ s.enter (.polled (.ok false)) with signal := false } : Station).finish (.ok 0)) := by
  unfold beginPoll
  rcases hp : w.poll s.journal with _ | e
  · rcases hs : s.signal with _ | _
    · exact .inr (.inr ⟨rfl, rfl, rfl⟩)
    · exact .inr (.inl ⟨rfl, rfl, rfl⟩)
  · exact .inl ⟨e, rfl, rfl⟩

lemma faultless_of_advance {arrived taken : List Receipt} {hs : List Handling}
    (h : Advance w s t arrived taken hs) (hq : Faultless s.queue) (ha : Faultless arrived) :
    Faultless t.queue := by
  intro r hr
  have hmem : r ∈ s.queue ++ arrived := by
    rw [h.queue]
    exact List.mem_append_right _ hr
  rcases List.mem_append.mp hmem with h1 | h1
  · exact hq r h1
  · exact ha r h1

lemma attentive_listen (w : Surroundings) (settings : Settings) :
    Attentive (listen w settings).2 :=
  ⟨by simp [Faultless], by simp⟩

lemma attentive_step (h : Attentive s) {e : Event} (he : Faultless e.receipts) :
    Attentive (s.step w e) := by
  obtain ⟨taken, hs, -, hadv⟩ := s.advance_step w e
  refine ⟨faultless_of_advance hadv h.faultless he, ?_⟩
  rcases hp : s.phase with _ | ⟨m, n⟩
  · rcases e with r | _ | _
    · -- something has come in, so there is a signal
      intro _ hsig
      simp [step, letIn] at hsig
    · rw [step_poll w hp]
      rcases s.beginPoll_cases w with ⟨e, -, hb⟩ | ⟨-, -, hb⟩ | ⟨-, hsig, hb⟩
      · rw [hb]
        exact fun _ => h.stranded hp
      · rw [hb]
        intro hidle
        cases hidle
      · rw [hb]
        exact fun _ _ => h.stranded hp hsig
    · rw [step_receive_idle w hp]
      exact h.stranded
  · rcases draining_step (w := w) hp h.faultless e with ⟨m', hd⟩ | ⟨-, hq, -⟩ | ⟨-, hc, -⟩
    · intro hidle
      rw [hd] at hidle
      cases hidle
    · exact fun _ _ hne => absurd hq hne
    · exact fun _ _ _ => hc

lemma attentive_run (h : Attentive s) {es : List Event} (he : Faultless (arrivals es)) :
    Attentive (s.run w es) := by
  induction es generalizing s with
  | nil => exact h
  | cons e es ih =>
    rw [run_cons]
    refine ih (attentive_step h fun r hr => he r ?_) fun r hr => he r ?_
    · exact List.mem_append_left _ hr
    · exact List.mem_append_right _ hr

/-- A drain that ends well has emptied the queue. -/
lemma queue_of_drained {es : List Event} (hp : s.phase = .draining m n) (h : Attentive s)
    (he : Faultless (arrivals es))
    (hunder : ∀ es₁ es₂, es = es₁ ++ es₂ → es₂ ≠ [] → (s.run w es₁).phase ≠ .idle)
    (hover : (s.run w es).phase = .idle) {k : Nat} (hok : (s.run w es).outcome = some (.ok k)) :
    (s.run w es).queue = [] := by
  induction es generalizing s m with
  | nil => simp [hp] at hover
  | cons e es ih =>
    have hfirst : Faultless e.receipts := fun r hr => he r (List.mem_append_left _ hr)
    have hrest : Faultless (arrivals es) := fun r hr => he r (List.mem_append_right _ hr)
    -- once the drain is over, so are the events
    have hlast : (s.step w e).phase = .idle → es = [] := by
      intro hidle
      by_contra hne
      exact hunder [e] es rfl hne hidle
    rcases draining_step (w := w) hp h.faultless e with ⟨m', hd⟩ | ⟨hi, hq, -⟩ | ⟨hi, -, f, ho⟩
    · refine ih hd (attentive_step h hfirst) hrest (fun es₁ es₂ hs hne => ?_) hover hok
      exact hunder (e :: es₁) es₂ (by rw [hs]; rfl) hne
    · rw [hlast hi]
      exact hq
    · rw [hlast hi] at hok
      rw [run_cons, run_nil, ho] at hok
      cases hok

end Station

lemma length_datagramsIn {rs : List Receipt} (h : Faultless rs) :
    (datagramsIn rs).length = rs.length := by
  induction rs with
  | nil => rfl
  | cons r rs ih =>
    obtain ⟨d, rfl⟩ := h r (by simp)
    have hrs : Faultless rs := fun x hx => h x (List.mem_cons_of_mem _ hx)
    simp only [datagramsIn, List.filterMap_cons, Except.toOption, List.length_cons]
    exact congrArg (· + 1) (ih hrs)

/-- All that came in by `es₀` was handled if no more is queued than has come in since. -/
lemma allHandled_iff_length {w : Surroundings} {settings : Settings} {es₀ es : List Event}
    {t : Station} {taken : List Receipt} {hs : List Handling}
    (h : Advance w (Station.listen w settings).2 t (arrivals es₀ ++ arrivals es) taken hs)
    (h₀ : Faultless (arrivals es₀)) (h₁ : Faultless (arrivals es)) :
    AllHandled es₀ t ↔ t.queue.length ≤ (arrivals es).length := by
  have hacc : Account [] t.journal hs := (Station.account_listen w settings).trans h.account
  have hdat : t.journal.datagrams = (datagramsIn taken).map (Datagram.cut bufferSize) :=
    hacc.datagrams.trans h.datagrams
  have hq : arrivals es₀ ++ arrivals es = taken ++ t.queue := by simpa using h.queue
  have hlen : (arrivals es₀).length + (arrivals es).length = taken.length + t.queue.length := by
    simpa using congrArg List.length hq
  have htaken : Faultless taken := by
    intro r hr
    have hmem : r ∈ arrivals es₀ ++ arrivals es := hq ▸ List.mem_append_left _ hr
    rcases List.mem_append.mp hmem with h' | h'
    · exact h₀ r h'
    · exact h₁ r h'
  unfold AllHandled
  rw [hdat]
  constructor
  · intro hpre
    have hle := hpre.length_le
    rw [List.length_map, List.length_map, length_datagramsIn h₀, length_datagramsIn htaken] at hle
    omega
  · intro hle
    have hpre : arrivals es₀ <+: taken :=
      List.prefix_of_prefix_length_le (hq ▸ List.prefix_append ..) (List.prefix_append ..)
        (by omega)
    exact (hpre.filterMap _).map _

/-- A call that succeeds has emptied the queue, or has received nothing at all. -/
lemma call_cases {w : Surroundings} {es : List Event} {s t : Station} {n : Nat}
    (hatt : Attentive s) (h₁ : Faultless (arrivals es)) (hc : Call w s es t)
    (hok : t.outcome = some (.ok n)) :
    (w.poll s.journal = none ∧ s.signal = true ∧ t.queue = []) ∨
    ((w.poll s.journal ≠ none ∨ s.signal = false) ∧ es = [] ∧ n = 0 ∧ t.queue = s.queue ∧
      (Stranded s → Stranded t)) := by
  have hstep := Station.step_poll w hc.idle
  -- a poll that is over at once has no events of its own
  have hover : (s.step w .poll).phase = .idle → es = [] := by
    intro hidle
    by_contra hne
    exact hc.under [] es rfl hne hidle
  rcases s.beginPoll_cases w with ⟨e, hw, hb⟩ | ⟨hw, hsig, hb⟩ | ⟨hw, hsig, hb⟩
  · have hes : es = [] := hover (by rw [hstep, hb]; rfl)
    have ht : t = (s.enter (.polled (.error e))).finish (Station.failedWait e) := by
      rw [hc.run, hes, hstep, hb]; rfl
    have hwait : Station.failedWait e = .ok n := by
      rw [ht] at hok
      exact Option.some.inj hok
    have hn : n = 0 := by
      unfold Station.failedWait at hwait
      split at hwait
      · exact (Except.ok.inj hwait).symm
      · cases hwait
    refine .inr ⟨.inl (by simp [hw]), hes, hn, by rw [ht]; rfl, fun hst => ?_⟩
    rw [ht]
    exact ⟨hst.queued, hst.silent, hst.cutShort⟩
  · have hdrain : (s.step w .poll).phase = .draining 0 0 := by rw [hstep, hb]
    have hatt' : Attentive (s.step w .poll) :=
      Station.attentive_step hatt (by simp [Faultless, Event.receipts])
    have hend : ((s.step w .poll).run w es).phase = .idle := hc.run ▸ hc.ended
    rw [hc.run] at hok ⊢
    exact .inl ⟨hw, hsig, Station.queue_of_drained hdrain hatt' h₁ hc.under hend hok⟩
  · have hes : es = [] := hover (by rw [hstep, hb]; rfl)
    have ht : t = ({ s.enter (.polled (.ok false)) with signal := false } : Station).finish
        (.ok 0) := by
      rw [hc.run, hes, hstep, hb]; rfl
    have hn : n = 0 := by
      rw [ht] at hok
      exact (Except.ok.inj (Option.some.inj hok)).symm
    refine .inr ⟨.inr hsig, hes, hn, by rw [ht]; rfl, fun hst => ?_⟩
    rw [ht]
    exact ⟨hst.queued, rfl, hst.cutShort⟩

/-- **Leftovers.** On a socket without faults, a poll that succeeds has handled all that had come in
before it unless its wait was interrupted, or a drain before it was cut short by the output and
nothing has come in since. In the latter case it handles nothing, and the next poll will do no
better. -/
theorem allHandled_iff {w : Surroundings} (settings : Settings) {es₀ es : List Event}
    {s t : Station} {n : Nat} (hs : s = (Station.listen w settings).2.run w es₀)
    (h₀ : Faultless (arrivals es₀)) (h₁ : Faultless (arrivals es)) (hc : Call w s es t)
    (hok : t.outcome = some (.ok n)) :
    (AllHandled es₀ t ↔ (w.poll s.journal = none ∨ s.queue = []) ∧ ¬ Stranded s) ∧
    (AllHandled es₀ t ↔ t.queue = []) ∧
    (Stranded s → n = 0 ∧ t.queue = s.queue ∧ Stranded t) := by
  have hatt : Attentive s := hs ▸ Station.attentive_run (Station.attentive_listen w settings) h₀
  obtain ⟨k, gs, hadv⟩ := (Station.listen w settings).2.advance_run w es₀
  obtain ⟨k₁, gs₁, -, hpoll⟩ := s.advance_step w .poll
  obtain ⟨k', gs', hadv'⟩ := (s.step w .poll).advance_run w es
  rw [← hs] at hadv
  rw [← hc.run] at hadv'
  have hall : AllHandled es₀ t ↔ t.queue.length ≤ (arrivals es).length :=
    allHandled_iff_length (by simpa [Event.receipts] using hadv.trans (hpoll.trans hadv')) h₀ h₁
  rcases call_cases hatt h₁ hc hok with ⟨hw, hsig, hq⟩ | ⟨hwhy, hes, hn, hq, hst⟩
  · have hyes : AllHandled es₀ t := hall.mpr (by simp [hq])
    have hnot : ¬ Stranded s := fun hst => by simp [hst.silent] at hsig
    exact ⟨⟨fun _ => ⟨.inl hw, hnot⟩, fun _ => hyes⟩, ⟨fun _ => hq, fun _ => hyes⟩,
      fun hst => absurd hst hnot⟩
  · have hnil : AllHandled es₀ t ↔ t.queue = [] := by simpa [hes] using hall
    refine ⟨?_, hnil, fun h => ⟨hn, hq, hst h⟩⟩
    rw [hnil, hq]
    constructor
    · exact fun h => ⟨.inr h, fun hst => hst.queued h⟩
    · rintro ⟨hw | hnil, hnot⟩
      · have hsig : s.signal = false := hwhy.resolve_left (not_not_intro hw)
        by_contra hne
        exact hnot ⟨hne, hsig, hatt.stranded hc.idle hsig hne⟩
      · exact hnil

/-- Two datagrams come in, and the line of the first is refused. -/
def refusedFirst : List Event :=
  [.arrive (call 1 1), .arrive (call 2 2), .poll, .receive]

/-- The station after the refusal. -/
def halfway : Station := (Station.listen faulty ⟨7⟩).2.run faulty refusedFirst

lemma faultless_refusedFirst : Faultless (arrivals refusedFirst) := by
  intro r hr
  rcases List.mem_cons.mp hr with rfl | hr
  · exact ⟨_, rfl⟩
  · rw [List.mem_singleton.mp hr]
    exact ⟨_, rfl⟩

/-- The next poll is over at once. -/
lemma call_halfway : Call faulty halfway [] (halfway.step faulty .poll) where
  idle := rfl
  run := rfl
  under := by
    intro es₁ es₂ h hne
    exact absurd (List.append_eq_nil_iff.mp h.symm).2 hne
  ended := rfl

/-- The poll after a refused line handles nothing, and the second datagram stays. -/
theorem allHandled_iff_halfway :
    Faultless (arrivals refusedFirst) ∧ Faultless (arrivals []) ∧
      Call faulty halfway [] (halfway.step faulty .poll) ∧
      (halfway.step faulty .poll).outcome = some (.ok 0) ∧ Stranded halfway ∧
      ¬ AllHandled refusedFirst (halfway.step faulty .poll) ∧
      Stranded (halfway.step faulty .poll) := by
  have hst : Stranded halfway := ⟨by decide, rfl, rfl⟩
  obtain ⟨hiff, -, hstays⟩ := allHandled_iff (n := 0) ⟨7⟩ rfl faultless_refusedFirst
    (by simp [Faultless]) call_halfway rfl
  exact ⟨faultless_refusedFirst, by simp [Faultless], call_halfway, rfl, hst,
    fun h => (hiff.mp h).2 hst, (hstays hst).2.2⟩

/-- A poll may succeed and leave what had come in before it, with no fault of the socket. -/
theorem not_allHandled_of_ok :
    ¬ ∀ (w : Surroundings) (settings : Settings) (es₀ es : List Event) (s t : Station) (n : Nat),
      s = (Station.listen w settings).2.run w es₀ → Faultless (arrivals es₀) →
      Faultless (arrivals es) → Call w s es t → t.outcome = some (.ok n) → AllHandled es₀ t := by
  intro h
  have hall := h faulty ⟨7⟩ refusedFirst [] halfway _ 0 rfl faultless_refusedFirst
    (by simp [Faultless]) call_halfway rfl
  revert hall
  unfold AllHandled
  decide

end Responder

end PortEcho
