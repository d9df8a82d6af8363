import Mathlib.Algebra.Ring.Nat
import PortEcho.Proofs.Responder.Handling
import PortEcho.Responder.Service

/-!
A responder's journal as an account of its handlings.

The acts between two handlings are idle. Whatever an event is and whatever the surroundings answer,
a station moves on by handlings: what was queued and what came in is what was taken and what is
queued now, and the tally has counted each handling once. A whole run, of a station or of a
service, does no more than its events.
-/

namespace PortEcho

/-- An act that neither takes a datagram from the socket nor prints nor sends. -/
def Act.isIdle : Act → Bool
  | .received (.ok _) | .wrote .. | .flushed .. | .sent .. => false
  | _ => true

lemma Act.views_of_isIdle {a : Act} (ha : a.isIdle) :
    a.datagram? = none ∧ a.line? = none ∧ a.departure? = none ∧ a.isFlush = false := by
  rcases a with _ | _ | _ | _ | ⟨_ | _⟩ | _ | _ | _ | _ | _
  all_goals first
    | exact ⟨rfl, rfl, rfl, rfl⟩
    | cases ha

namespace Responder

/-- The datagrams among receipts. -/
def datagramsIn (rs : List Receipt) : List Datagram := rs.filterMap Except.toOption

lemma datagramsIn_append (rs qs : List Receipt) :
    datagramsIn (rs ++ qs) = datagramsIn rs ++ datagramsIn qs :=
  List.filterMap_append ..

/-- The buffer of a responder holds all that it sends back. -/
lemma reply_cut (d : Datagram) : Probe.reply (d.cut bufferSize).bytes = Probe.reply d.bytes := by
  unfold Probe.reply Datagram.cut
  rw [List.take_take]
  rfl

lemma flatMap_ite {α β : Type} (p : α → Bool) (f : α → β) (xs : List α) :
    (xs.flatMap fun x => if p x then [f x] else []) = (xs.filter p).map f := by
  induction xs with
  | nil => rfl
  | cons x xs ih => cases h : p x <;> simp [h, ih]

lemma sum_ite {α : Type} (p : α → Bool) (f : α → Nat) (xs : List α) :
    (xs.map fun x => if p x then f x else 0).sum = ((xs.filter p).map f).sum := by
  induction xs with
  | nil => rfl
  | cons x xs ih => cases h : p x <;> simp [h, ih]

lemma sum_ite_one {α : Type} (p : α → Bool) (xs : List α) :
    (xs.map fun x => if p x then 1 else 0).sum = xs.countP p := by
  rw [sum_ite, List.countP_eq_length_filter]
  simp

/-- The journal has grown out of `i` by handlings, with idle acts between them. -/
inductive Account (i : Journal) : Journal → List Handling → Prop
  | nil : Account i i []
  | idle {a : Act} {j : Journal} {hs : List Handling} (ha : a.isIdle) (h : Account i j hs) :
      Account i (a :: j) hs
  | handled {j : Journal} {hs : List Handling} (h : Handling) (hj : Account i j hs) :
      Account i (h.acts ++ j) (hs ++ [h])

namespace Account

variable {i j k : Journal} {hs gs : List Handling}

lemma trans (h : Account i j hs) (g : Account j k gs) : Account i k (hs ++ gs) := by
  induction g with
  | nil => simpa using h
  | idle ha _ ih => exact .idle ha ih
  | handled h' _ ih =>
    rw [← List.append_assoc]
    exact .handled h' ih

/-- A journal only grows. -/
lemma suffix (h : Account i j hs) : i <:+ j := by
  induction h with
  | nil => exact List.suffix_rfl
  | idle _ _ ih => exact ih.trans (List.suffix_cons ..)
  | handled _ _ ih => exact ih.trans (List.suffix_append ..)

lemma of_idle {as : List Act} (ha : ∀ a ∈ as, a.isIdle) : Account i (as ++ i) [] := by
  induction as with
  | nil => exact .nil
  | cons a as ih =>
    exact .idle (ha a (by simp)) (ih fun b hb => ha b (by simp [hb]))

/-- What is read off the journal is read off the handlings, if idle acts show nothing. -/
lemma view {α : Type} {f : Act → Option α} (hf : ∀ a, a.isIdle → f a = none)
    (h : Account i j hs) : j.view f = i.view f ++ hs.flatMap (Journal.view f ·.acts) := by
  induction h with
  | nil => simp
  | idle ha _ ih => simp [ih, hf _ ha]
  | handled h' _ ih => simp [Journal.view_append, ih]

lemma countP {p : Act → Bool} (hp : ∀ a, a.isIdle → p a = false) (h : Account i j hs) :
    j.countP p = i.countP p + (hs.map fun g => g.acts.countP p).sum := by
  induction h with
  | nil => simp
  | idle ha _ ih => simp [ih, hp _ ha]
  | handled h' _ ih => simp [ih]; omega

lemma datagrams (h : Account i j hs) : j.datagrams = i.datagrams ++ hs.map Handling.datagram := by
  have hf : ∀ a : Act, a.isIdle → a.datagram? = none := fun _ ha => (Act.views_of_isIdle ha).1
  have hd : hs.flatMap (Journal.datagrams ·.acts) = hs.map Handling.datagram := by
    simp [List.map_eq_flatMap]
  rw [← hd]
  exact h.view hf

lemma lines (h : Account i j hs) :
    j.lines = i.lines ++ (hs.filter Handling.isKept).map Handling.line := by
  have hf : ∀ a : Act, a.isIdle → a.line? = none := fun _ ha => (Act.views_of_isIdle ha).2.1
  have hl : hs.flatMap (Journal.lines ·.acts) = (hs.filter Handling.isKept).map Handling.line := by
    simp [flatMap_ite]
  rw [← hl]
  exact h.view hf

lemma departures {w : Surroundings} (hw : w.SendsWhole) (hp : ∀ g ∈ hs, g.Possible w)
    (h : Account i j hs) : j.departures = i.departures ++
      (hs.filter Handling.isAnswered).map fun g => (g.datagram.source, g.reply) := by
  have hf : ∀ a : Act, a.isIdle → a.departure? = none :=
    fun _ ha => (Act.views_of_isIdle ha).2.2.1
  have hd : hs.flatMap (Journal.departures ·.acts) =
      (hs.filter Handling.isAnswered).map fun g => (g.datagram.source, g.reply) := by
    rw [← flatMap_ite]
    exact List.flatMap_congr fun g hg => g.departures_acts hw (hp g hg)
  rw [← hd]
  exact h.view hf

lemma flushes (h : Account i j hs) : j.flushes = i.flushes + hs.countP Handling.isKept := by
  have hf : ∀ a : Act, a.isIdle → a.isFlush = false :=
    fun _ ha => (Act.views_of_isIdle ha).2.2.2
  have hc : (hs.map fun g => Journal.flushes g.acts).sum = hs.countP Handling.isKept := by
    simp [sum_ite_one]
  rw [← hc]
  exact h.countP hf

/-- Every reply in the journal comes right after the printed line of its datagram. -/
lemma printed_of_sent (h : Account [] j hs) {later earlier : Journal} {dest : Endpoint}
    {bytes : Bytes} {given : Except Fault Nat}
    (hj : j = later ++ .sent dest bytes given :: earlier) :
    ∃ g ∈ hs, dest = g.datagram.source ∧ bytes = g.reply ∧ g.printed <+: earlier := by
  induction h generalizing later with
  | nil => simp at hj
  | @idle a j gs ha _ ih =>
    rcases later with _ | ⟨b, later⟩
    · obtain ⟨rfl, -⟩ := List.cons.inj hj
      cases ha
    · exact ih (List.cons.inj hj).2
  | @handled j gs g _ ih =>
    rcases List.append_eq_append_iff.mp hj with ⟨mid, rfl, hm⟩ | ⟨mid, hm, he⟩
    · obtain ⟨x, hx, hd⟩ := ih hm
      exact ⟨x, List.mem_append_left _ hx, hd⟩
    · rcases mid with _ | ⟨b, mid⟩
      · obtain ⟨x, hx, hd⟩ := @ih [] (by simpa using he.symm)
        exact ⟨x, List.mem_append_left _ hx, hd⟩
      · obtain ⟨rfl, rfl⟩ := List.cons.inj he
        obtain ⟨hdest, hbytes, rfl⟩ := g.printed_of_sent hm
        exact ⟨g, by simp, hdest, hbytes, List.prefix_append ..⟩

end Account

/-- The station has moved on by handlings while some receipts came in and some were taken. -/
structure Advance (w : Surroundings) (s t : Station) (arrived taken : List Receipt)
    (hs : List Handling) : Prop where
  queue : s.queue ++ arrived = taken ++ t.queue
  datagrams : hs.map Handling.datagram = (datagramsIn taken).map (Datagram.cut bufferSize)
  account : Account s.journal t.journal hs
  tally : t.desk.tally = hs.foldl Handling.count s.desk.tally
  possible : ∀ h ∈ hs, h.Possible w

namespace Advance

variable {w : Surroundings} {s t u : Station} {arrived taken : List Receipt}

lemma refl (w : Surroundings) (s : Station) : Advance w s s [] [] [] :=
  ⟨by simp, rfl, .nil, rfl, by simp⟩

lemma trans {arrived' taken' : List Receipt} {hs gs : List Handling}
    (h : Advance w s t arrived taken hs) (g : Advance w t u arrived' taken' gs) :
    Advance w s u (arrived ++ arrived') (taken ++ taken') (hs ++ gs) where
  queue := by rw [← List.append_assoc, h.queue, List.append_assoc, g.queue, List.append_assoc]
  datagrams := by
    rw [List.map_append, datagramsIn_append, List.map_append]
    exact congrArg₂ _ h.datagrams g.datagrams
  account := h.account.trans g.account
  tally := by rw [g.tally, h.tally, List.foldl_append]
  possible := by
    intro x hx
    rcases List.mem_append.mp hx with hx | hx
    · exact h.possible x hx
    · exact g.possible x hx

/-- Idle acts, and faults taken from the socket, are no handlings. -/
lemma of_idle (as : List Act) (ha : ∀ a ∈ as, a.isIdle)
    (hd : t.desk = ⟨s.desk.tally, as ++ s.journal⟩) (hq : s.queue ++ arrived = taken ++ t.queue)
    (ht : datagramsIn taken = []) : Advance w s t arrived taken [] where
  queue := hq
  datagrams := by rw [ht]; rfl
  account := by
    unfold Station.journal at *
    rw [hd]
    exact .of_idle ha
  tally := by rw [hd]; rfl
  possible := by simp

end Advance

/-- What comes in by an event. -/
def Event.receipts : Event → List Receipt
  | .arrive r => [r]
  | _ => []

/-- What comes in by events. -/
def arrivals (es : List Event) : List Receipt := es.flatMap Event.receipts

@[simp] lemma arrivals_nil : arrivals [] = [] := rfl

@[simp] lemma arrivals_cons (e : Event) (es : List Event) :
    arrivals (e :: es) = e.receipts ++ arrivals es := rfl

namespace Station

lemma advance_letIn (w : Surroundings) (s : Station) (rs : List Receipt) :
    Advance w s (s.letIn rs) rs [] [] :=
  .of_idle [] (by simp) rfl (by simp [letIn]) rfl

lemma advance_enter (w : Surroundings) (s : Station) {a : Act} (ha : a.isIdle) :
    Advance w s (s.enter a) [] [] [] :=
  .of_idle [a] (by simpa using ha) rfl (by simp [enter]) rfl

lemma advance_beginPoll (w : Surroundings) (s : Station) :
    Advance w s (s.beginPoll w) [] [] [] := by
  unfold beginPoll
  rcases w.poll s.journal with _ | e
  · refine .of_idle [.polled (.ok s.signal)] (by simp [Act.isIdle]) ?_ ?_ rfl
    · by_cases h : s.signal <;> simp [h, finish, enter, Desk.enter, journal]
    · by_cases h : s.signal <;> simp [h, finish, enter]
  · exact .of_idle [.polled (.error e)] (by simp [Act.isIdle]) rfl
      (by simp [finish, enter]) rfl

/-- The station once the oldest receipt is taken from the queue. -/
def without (r : Receipt) (rest : List Receipt) (s : Station) : Station :=
  { s with queue := rest, buffer := (s.buffer.receive r).2 }

section step

variable (w : Surroundings) {s : Station} {m n : Nat} {r : Receipt} {rest : List Receipt}

lemma step_poll (h : s.phase = .idle) : s.step w .poll = s.beginPoll w := by
  simp [step, h]

lemma step_poll_draining (h : s.phase = .draining m n) : s.step w .poll = s := by
  simp [step, h]

lemma step_receive_idle (h : s.phase = .idle) : s.step w .receive = s := by
  simp [step, h]

lemma step_receive_nil (h : s.phase = .draining m n) (hq : s.queue = []) :
    s.step w .receive = s.take w m n (.error .wouldBlock) := by
  simp [step, next, h, hq]

lemma step_receive_cons (h : s.phase = .draining m n) (hq : s.queue = r :: rest) :
    s.step w .receive = (s.without r rest).take w m n (r.map (Datagram.cut bufferSize)) := by
  simp [step, next, without, h, hq, Buffer.fst_receive]

end step

/-- A datagram is handled, and the drain goes on unless the output refused something. -/
lemma take_ok (w : Surroundings) (m n : Nat) {d : Datagram} {s : Station} {h : Handling}
    (hh : h = s.desk.handling w d) :
    s.take w m n (.ok d) =
      match h.fault? with
      | none => { s with
          desk := ⟨h.count s.desk.tally, h.acts ++ s.journal⟩, phase := .draining (m + 1) n }
      | some e => { s with
          desk := ⟨h.count s.desk.tally, h.acts ++ s.journal⟩, phase := .idle,
          outcome := some (.error e) } := by
  unfold take enter
  simp only [s.desk.handle_eq w d, ← hh]
  rcases h.fault? with _ | e <;> rfl

lemma foldl_note (ns : List Notice) (s : Station) :
    ns.foldl (fun s n => s.note n) s =
      { s with desk := ⟨s.desk.tally, (ns.map Act.noted).reverse ++ s.journal⟩ } := by
  induction ns generalizing s with
  | nil => rfl
  | cons n ns ih =>
    rw [List.foldl_cons, ih]
    simp [note, enter, Desk.enter, journal]

/-- A fault of receiving is told, and then the drain goes on or ends. -/
lemma take_error (w : Surroundings) (m n : Nat) (e : Fault) (s : Station) :
    s.take w m n (.error e) =
      let s' := { s with desk := ⟨s.desk.tally, ((Verdict.notices e).map Act.noted).reverse ++
        Act.received (.error e) :: s.journal⟩ }
      match Verdict.ofFault e with
      | .stop => s'.finish (.ok m)
      | .retry =>
        if n < maxFaults then { s' with phase := .draining m (n + 1) }
        else (s'.note (.gaveUp n)).finish (.ok m) := by
  unfold take
  simp only [foldl_note]
  rfl

lemma advance_take_error (w : Surroundings) (m n : Nat) (e : Fault) {s t : Station}
    {taken : List Receipt} (hd : t.desk = s.desk) (hq : s.queue = taken ++ t.queue)
    (ht : datagramsIn taken = []) :
    Advance w s (t.take w m n (.error e)) [] taken [] := by
  obtain ⟨as, has⟩ : ∃ as : List Act,
    as = ((Verdict.notices e).map Act.noted).reverse ++ [.received (.error e)] := ⟨_, rfl⟩
  have hidle : ∀ a ∈ as, a.isIdle := by
    intro a ha
    simp only [has, List.mem_append, List.mem_reverse, List.mem_map, List.mem_singleton] at ha
    rcases ha with ⟨k, -, rfl⟩ | rfl <;> rfl
  have hlater : ∀ a ∈ Act.noted (.gaveUp n) :: as, a.isIdle := by simpa using ⟨rfl, hidle⟩
  rw [take_error]
  rcases Verdict.ofFault e with _ | _
  · refine .of_idle as hidle ?_ (by simpa [finish] using hq) ht
    simp [finish, hd, journal, has]
  · by_cases hn : n < maxFaults
    · simp only [hn, if_true]
      refine .of_idle as hidle ?_ (by simpa using hq) ht
      simp [hd, journal, has]
    · simp only [hn, if_false]
      refine .of_idle _ hlater ?_ (by simpa [finish, note, enter] using hq) ht
      simp [finish, note, enter, Desk.enter, hd, journal, has]

lemma advance_take_ok (w : Surroundings) (m n : Nat) {d : Datagram} {s t : Station}
    (hd : t.desk = s.desk) (hq : s.queue = .ok d :: t.queue) :
    ∃ h, Advance w s (t.take w m n (.ok (d.cut bufferSize))) [] [.ok d] [h] := by
  obtain ⟨h, hh⟩ : ∃ h, h = t.desk.handling w (d.cut bufferSize) := ⟨_, rfl⟩
  have hdat : h.datagram = d.cut bufferSize := by rw [hh]; rfl
  have hp : h.Possible w := by rw [hh]; exact t.desk.possible_handling w _
  have hacc : Account s.journal (h.acts ++ t.journal) [h] := by
    unfold journal
    rw [hd]
    exact .handled h .nil
  refine ⟨h, ?_⟩
  rw [take_ok w m n hh]
  rcases h.fault? with _ | e
  all_goals
    exact ⟨by simpa using hq, by simp [hdat, datagramsIn, Except.toOption], hacc, by simp [hd],
      by simpa using hp⟩

/-- **What an event does.** At most one receipt is taken, and handled if it is a datagram. -/
theorem advance_step (w : Surroundings) (s : Station) (e : Event) :
    ∃ taken hs, taken.length ≤ 1 ∧ Advance w s (s.step w e) e.receipts taken hs := by
  rcases e with r | _ | _
  · exact ⟨[], [], by simp, advance_letIn w s [r]⟩
  · refine ⟨[], [], by simp, ?_⟩
    rcases hph : s.phase with _ | ⟨m, n⟩
    · rw [step_poll w hph]
      exact advance_beginPoll w s
    · rw [step_poll_draining w hph]
      exact .refl w s
  · rcases hph : s.phase with _ | ⟨m, n⟩
    · rw [step_receive_idle w hph]
      exact ⟨[], [], by simp, .refl w s⟩
    · rcases hq : s.queue with _ | ⟨e | d, rest⟩
      · rw [step_receive_nil w hph hq]
        exact ⟨[], [], by simp, advance_take_error w m n _ rfl (by simp) rfl⟩
      · rw [step_receive_cons w hph hq]
        exact ⟨[.error e], [], by simp, advance_take_error w m n _ rfl hq rfl⟩
      · rw [step_receive_cons w hph hq]
        obtain ⟨h, ha⟩ := advance_take_ok w m n (s := s) (t := s.without (.ok d) rest) rfl hq
        exact ⟨[.ok d], [h], by simp, ha⟩

/-- What goes out by an event answers the one datagram that it takes. -/
lemma step_departures {w : Surroundings} (hw : w.SendsWhole) {s t : Station} {e : Event}
    (he : e.receipts = []) (ht : t = s.step w e) :
    (t.queue = s.queue ∧ t.journal.departures = s.journal.departures) ∨
    ∃ r sent, s.queue = r :: t.queue ∧ t.journal.departures = s.journal.departures ++ sent ∧
      ∀ c ∈ sent, ∃ d, r = .ok d ∧ c = (d.source, Probe.reply d.bytes) := by
  obtain ⟨taken, hs, hlen, h⟩ := s.advance_step w e
  rw [← ht, he] at h
  have hq := h.queue
  have hdep := h.account.departures hw h.possible
  rcases taken with _ | ⟨r, _ | _⟩
  · have hnil : hs = [] := List.map_eq_nil_iff.mp h.datagrams
    rw [hnil] at hdep
    exact .inl ⟨by simpa using hq.symm, by simpa using hdep⟩
  · refine .inr ⟨r, _, by simpa using hq, hdep, ?_⟩
    intro c hc
    obtain ⟨g, hg, rfl⟩ := List.mem_map.mp hc
    have hmem : g.datagram ∈ hs.map Handling.datagram :=
      List.mem_map_of_mem (List.mem_of_mem_filter hg)
    rw [h.datagrams] at hmem
    obtain ⟨d, hd, hcut⟩ := List.mem_map.mp hmem
    obtain ⟨x, hx, hok⟩ := List.mem_filterMap.mp hd
    rw [List.mem_singleton.mp hx] at hok
    refine ⟨d, ?_, ?_⟩
    · rcases r with e | d'
      · cases hok
      · rw [Option.some.inj hok]
    · rw [Handling.reply, ← hcut, reply_cut]
      rfl
  · simp at hlen

theorem advance_run (w : Surroundings) (s : Station) (es : List Event) :
    ∃ taken hs, Advance w s (s.run w es) (arrivals es) taken hs := by
  induction es generalizing s with
  | nil => exact ⟨[], [], .refl w s⟩
  | cons e es ih =>
    obtain ⟨k, hs, -, h⟩ := advance_step w s e
    obtain ⟨k', gs, g⟩ := ih (s.step w e)
    exact ⟨k ++ k', hs ++ gs, h.trans g⟩

/-- A station begins with an account of nothing and with empty counters. -/
lemma account_listen (w : Surroundings) (settings : Settings) :
    Account [] (listen w settings).2.journal [] := by
  have hidle : ∀ a ∈ (listen w settings).2.journal, a.isIdle := by
    intro a ha
    unfold listen at ha
    rcases hb : w.bind [] settings.address with e | own
    all_goals
      simp [hb, journal, Desk.note, Desk.enter] at ha
      rcases ha with rfl | rfl <;> rfl
  simpa using Account.of_idle (i := []) hidle

lemma tally_listen (w : Surroundings) (settings : Settings) :
    ∃ now, (listen w settings).2.desk.tally = { started := now } := by
  unfold listen
  rcases w.bind [] settings.address with e | own
  · exact ⟨0, rfl⟩
  · exact ⟨_, rfl⟩

@[simp] lemma queue_listen (w : Surroundings) (settings : Settings) :
    (listen w settings).2.queue = [] := by
  unfold listen
  rcases w.bind [] settings.address with e | own <;> rfl

end Station

namespace Service

/-- What comes in by a turn. -/
def enters (w : Surroundings) (s : Service) : List Receipt :=
  match s.stage with
  | .ended _ => []
  | .checking =>
    if w.stop s.journal then [] else w.arrivals (s.station.enter (.checked false)).journal
  | .polling =>
    match s.station.phase with
    | .draining .. => w.arrivals s.journal
    | .idle => []

/-- **What a turn does.** At most one receipt is taken, and handled if it is a datagram. -/
theorem advance_enters (w : Surroundings) (s : Service) :
    ∃ taken hs, taken.length ≤ 1 ∧
      Advance w s.station (s.turn w).station (s.enters w) taken hs := by
  unfold turn enters
  rcases s with ⟨s, _ | _ | result⟩
  · unfold check
    by_cases h : w.stop s.journal
    · have hc := s.advance_enter w (a := .checked true) rfl
      simp only [h, journal]
      exact ⟨_, _, Nat.zero_le _, hc.trans (Station.advance_enter w _ rfl)⟩
    · have hc := s.advance_enter w (a := .checked false) rfl
      have hl := (s.enter (.checked false)).advance_letIn w
        (w.arrivals (s.enter (.checked false)).journal)
      obtain ⟨k, hs, hk, hp⟩ := Station.advance_step w (letIn w (s.enter (.checked false))) .poll
      have hadv := (hc.trans hl).trans hp
      simp only [h, journal]
      exact ⟨k, hs, hk, by simpa [Event.receipts] using hadv⟩
  · simp only
    rcases hph : s.phase with _ | ⟨m, n⟩
    · refine ⟨[], [], Nat.zero_le _, ?_⟩
      unfold leave
      rcases s.outcome with _ | e | _ <;> exact .refl w s
    · obtain ⟨k, hs, hk, hp⟩ := Station.advance_step w (letIn w s) .receive
      have hadv := (s.advance_letIn w (w.arrivals s.journal)).trans hp
      exact ⟨k, hs, hk, by simpa [Event.receipts, journal] using hadv⟩
  · exact ⟨[], [], Nat.zero_le _, .refl w s⟩

/-- What comes in by so many turns. -/
def arrivedIn (w : Surroundings) : Nat → Service → List Receipt
  | 0, _ => []
  | n + 1, s => s.enters w ++ arrivedIn w n (s.turn w)

lemma run_of_ended {w : Surroundings} {s : Service} (h : s.result?.isSome) (n : Nat) :
    s.run w n = s := by
  cases n <;> simp [run, h]

lemma run_succ {w : Surroundings} {s : Service} (h : ¬ s.result?.isSome) (n : Nat) :
    s.run w (n + 1) = (s.turn w).run w n := by
  simp [run, h]

lemma arrivedIn_of_ended {w : Surroundings} {s : Service} (h : s.result?.isSome) (n : Nat) :
    s.arrivedIn w n = [] := by
  obtain ⟨s, _ | _ | result⟩ := s
  · cases h
  · cases h
  · induction n with
    | zero => rfl
    | succ n ih => exact ih

theorem advance_arrivedIn (w : Surroundings) (n : Nat) (s : Service) :
    ∃ taken hs, Advance w s.station (s.run w n).station (s.arrivedIn w n) taken hs := by
  induction n generalizing s with
  | zero => exact ⟨[], [], .refl w s.station⟩
  | succ n ih =>
    by_cases h : s.result?.isSome
    · rw [run_of_ended h, arrivedIn_of_ended h]
      exact ⟨[], [], .refl w s.station⟩
    · obtain ⟨k, hs, -, ht⟩ := s.advance_enters w
      obtain ⟨k', gs, hr⟩ := ih (s.turn w)
      rw [run_succ h]
      exact ⟨k ++ k', hs ++ gs, ht.trans hr⟩

theorem advance_run (w : Surroundings) (n : Nat) (s : Service) :
    ∃ arrived taken hs, Advance w s.station (s.run w n).station arrived taken hs := by
  obtain ⟨taken, hs, h⟩ := s.advance_arrivedIn w n
  exact ⟨_, taken, hs, h⟩

end Service

/-- The first line is refused, and the first reply. -/
def faulty : Surroundings where
  write := fun j => if j.writes = 0 then some (.custom .other "full") else none
  send := fun j _ bytes => if j.sends = 0 then .error .unreachable else .ok bytes.length

lemma faulty_sendsWhole : faulty.SendsWhole := by
  intro j dest bytes n h
  simp only [faulty] at h
  split at h
  · cases h
  · exact (Except.ok.inj h).symm

/-- A datagram of sixteen bytes with this number, from a port of the loopback address. -/
def call (port : UInt16) (number : UInt8) : Receipt :=
  .ok ⟨.v4 .loopback port, number :: List.replicate 15 0⟩

/-- Two datagrams, and a third after a poll in which the first met a refusal. -/
def mixed : List Event :=
  [.arrive (call 1 1), .arrive (call 2 2), .poll, .receive, .arrive (call 1 3), .poll,
    .receive, .receive, .receive]

end Responder

end PortEcho
