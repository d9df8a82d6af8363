import PortEcho.Proofs.Prober.Rounds

/-!
The journal of a run of rounds as a row of trials.

Pauses show neither in the output nor on the network, so without them a journal is what the trials
have left in it. Their numbers follow each other, and as long as none has broken down there is one
printed line for each probe.
-/

namespace PortEcho

/-- What was handed over to be sent. -/
def Act.handed? : Act → Option Bytes
  | .sent _ bytes _ => some bytes
  | _ => none

/-- The act shows neither in the output nor on the network. -/
structure Act.Silent (a : Act) : Prop where
  line : a.line? = none
  handed : a.handed? = none
  write : a.isWrite = false
  flush : a.isFlush = false
  send : a.isSend = false

lemma Act.silent_of_isPause {a : Act} (h : a.isPause) : a.Silent := by
  cases a with
  | checked | timed | slept => exact ⟨rfl, rfl, rfl, rfl, rfl⟩
  | _ => cases h

lemma Act.silent_of_isLook {a : Act} (h : a.isLook) : a.Silent := by
  cases a with
  | received | noted => exact ⟨rfl, rfl, rfl, rfl, rfl⟩
  | _ => cases h

lemma Act.nap_of_isLook {a : Act} (h : a.isLook) : a.nap? = none := by
  cases a with
  | received | noted => rfl
  | _ => cases h

lemma Act.isPause_of_isLook {a : Act} (h : a.isLook) : a.isPause = false := by
  cases a with
  | received | noted => rfl
  | _ => cases h

namespace Journal

/-- All that was handed over to be sent. -/
def handed (j : Journal) : List Bytes := j.view Act.handed?

/-- What is left without the pauses. -/
def busy (j : Journal) : Journal := j.filter (!·.isPause)

@[simp] lemma busy_append (i j : Journal) : busy (i ++ j) = busy i ++ busy j :=
  List.filter_append ..

lemma busy_cons {a : Act} (h : a.isPause) (j : Journal) : busy (a :: j) = busy j := by
  simp [busy, h]

/-- What shows nothing may be left out. -/
lemma view_filter {α : Type} {f : Act → Option α} {c : Act → Bool}
    (hf : ∀ a, c a = false → f a = none) (j : Journal) : view f (j.filter c) = view f j := by
  induction j with
  | nil => rfl
  | cons a j ih =>
    rcases h : c a with _ | _
    · rw [List.filter_cons_of_neg (by simp [h]), ih, view_cons, hf a h]
      simp
    · rw [List.filter_cons_of_pos h, view_cons, view_cons, ih]

lemma view_busy {α : Type} {f : Act → Option α} (hf : ∀ a, a.isPause → f a = none) (j : Journal) :
    view f (busy j) = view f j :=
  view_filter (fun a ha => hf a (by simpa using ha)) j

lemma countP_busy {c : Act → Bool} (hc : ∀ a, a.isPause → c a = false) (j : Journal) :
    (busy j).countP c = j.countP c := by
  unfold busy
  rw [List.countP_filter]
  refine List.countP_congr fun a _ => ?_
  by_cases h : a.isPause
  · simp [h, hc a h]
  · simp [h]

lemma view_eq_nil {α : Type} {f : Act → Option α} {j : Journal} (h : ∀ a ∈ j, f a = none) :
    view f j = [] := by
  simpa [view] using h

end Journal

namespace Prober

/-- A ping shows what the call shows that hands over its probe. -/
lemma view_ping {α : Type} {f : Act → Option α} (hf : ∀ a, a.isLook → f a = none)
    (u : Surroundings) (p : Prober) :
    (p.ping u).2.journal.view f = p.journal.view f ++
      (f (.sent p.target (Probe.build p.next)
        (u.send p.journal p.target (Probe.build p.next)))).toList := by
  obtain ⟨looks, h⟩ := ping_spec u p
  have hlooks : Journal.view f looks = [] :=
    Journal.view_eq_nil fun a ha => hf a (h.onlyLooks a ha)
  rw [h.journal, Journal.view_append, hlooks, Journal.view_cons, List.append_nil]

/-- A ping hands over the probe with the next number, and uses the number up. -/
lemma handed_ping (w : Surroundings) (p : Prober) :
    (p.ping w).2.journal.handed = p.journal.handed ++ [Probe.build p.next] ∧
      (p.ping w).2.next = p.next + 1 := by
  obtain ⟨looks, h⟩ := ping_spec w p
  exact ⟨view_ping (fun a ha => (Act.silent_of_isLook ha).handed) w p, h.next⟩

/-- A report only writes and flushes. -/
lemma Fate.quiet_of_mem_report {f : Fate} {a : Act} (h : a ∈ f.report) :
    a.isPause = false ∧ a.isSend = false := by
  rcases f with e | ⟨o, e⟩ | ⟨o, e⟩ | o
  all_goals simp only [Fate.report, List.mem_cons, List.not_mem_nil, or_false] at h
  · rw [h]
    exact ⟨rfl, rfl⟩
  · rcases h with rfl | rfl <;> exact ⟨rfl, rfl⟩
  · rcases h with rfl | rfl <;> exact ⟨rfl, rfl⟩

namespace Trial

variable {t : Trial}

lemma view_acts {α : Type} {f : Act → Option α} (h : t.Sound) (hf : ∀ a, a.isLook → f a = none) :
    Journal.view f t.acts = (f (.sent t.target (Probe.build t.number) t.given)).toList ++
      Journal.view f t.fate.report := by
  have hlooks : Journal.view f t.looks = [] :=
    Journal.view_eq_nil fun a ha => hf a (h.onlyLooks a ha)
  unfold acts pinging
  rw [Journal.view_append, Journal.view_append, hlooks]
  simp

lemma countP_acts {c : Act → Bool} (h : t.Sound) (hc : ∀ a, a.isLook → c a = false) :
    t.acts.countP c = t.fate.report.countP c +
      if c (.sent t.target (Probe.build t.number) t.given) then 1 else 0 := by
  have hlooks : t.looks.countP c = 0 :=
    List.countP_eq_zero.mpr fun a ha => by simp [hc a (h.onlyLooks a ha)]
  unfold acts pinging
  rw [List.countP_append, List.countP_append, hlooks, Nat.zero_add, List.countP_singleton]

lemma lines_acts (h : t.Sound) : Journal.lines t.acts = Journal.lines t.fate.report :=
  view_acts h fun _ ha => (Act.silent_of_isLook ha).line

lemma handed_acts (h : t.Sound) : Journal.handed t.acts = [Probe.build t.number] := by
  have hreport : Journal.view Act.handed? t.fate.report = [] := by
    rcases t.fate with _ | _ | _ | _ <;> rfl
  unfold Journal.handed
  rw [view_acts h fun _ ha => (Act.silent_of_isLook ha).handed, hreport]
  rfl

lemma naps_acts (h : t.Sound) : Journal.naps t.acts = [] := by
  have hreport : Journal.view Act.nap? t.fate.report = [] := by
    rcases t.fate with _ | _ | _ | _ <;> rfl
  unfold Journal.naps
  rw [view_acts h fun _ ha => Act.nap_of_isLook ha, hreport]
  rfl

lemma writes_acts (h : t.Sound) : Journal.writes t.acts = Journal.writes t.fate.report := by
  unfold Journal.writes
  rw [countP_acts h fun _ ha => (Act.silent_of_isLook ha).write]
  rfl

lemma flushes_acts (h : t.Sound) : Journal.flushes t.acts = Journal.flushes t.fate.report := by
  unfold Journal.flushes
  rw [countP_acts h fun _ ha => (Act.silent_of_isLook ha).flush]
  rfl

lemma sends_acts (h : t.Sound) : Journal.sends t.acts = 1 := by
  have hreport : t.fate.report.countP Act.isSend = 0 := by
    rcases t.fate with _ | _ | _ | _ <;> rfl
  unfold Journal.sends
  rw [countP_acts h fun _ ha => (Act.silent_of_isLook ha).send, hreport]
  rfl

lemma told_of_breakdown (h : t.breakdown? = none) : ∃ o, t.fate = .told o := by
  rcases hf : t.fate with e | ⟨o, e⟩ | ⟨o, e⟩ | o
  · simp [breakdown?, hf, Fate.breakdown?] at h
  · simp [breakdown?, hf, Fate.breakdown?] at h
  · simp [breakdown?, hf, Fate.breakdown?] at h
  · exact ⟨o, rfl⟩

lemma busy_acts (h : t.Sound) : Journal.busy t.acts = t.acts := by
  refine List.filter_eq_self.mpr fun a ha => ?_
  rw [Bool.not_eq_true']
  rcases List.mem_append.mp ha with ha | ha
  · exact (Fate.quiet_of_mem_report ha).1
  · rcases List.mem_append.mp ha with ha | ha
    · exact Act.isPause_of_isLook (h.onlyLooks a ha)
    · rw [List.mem_singleton.mp ha]
      rfl

end Trial

/-- What trials, one after the other, have left in the journal. -/
def actsOf (ts : List Trial) : Journal := ts.reverse.flatMap Trial.acts

@[simp] lemma actsOf_cons (t : Trial) (ts : List Trial) :
    actsOf (t :: ts) = actsOf ts ++ t.acts := by
  simp [actsOf]

@[simp] lemma actsOf_concat (ts : List Trial) (t : Trial) :
    actsOf (ts ++ [t]) = t.acts ++ actsOf ts := by
  simp [actsOf]

/-- The outcomes of trials that got one. -/
def outcomesOf (ts : List Trial) : List Outcome := ts.filterMap (·.fate.outcome?)

/-- There is one printed line for each probe. -/
structure Printed (j : Journal) (os : List Outcome) : Prop where
  handed : j.handed = os.map fun o => Probe.build o.number
  lines : j.lines = os.map Outcome.line
  sends : j.sends = os.length
  writes : j.writes = os.length
  flushes : j.flushes = os.length

lemma Printed.append {i j : Journal} {os ps : List Outcome} (h : Printed j os) (g : Printed i ps) :
    Printed (i ++ j) (os ++ ps) where
  handed := by
    have hview : (i ++ j).handed = j.handed ++ i.handed := Journal.view_append ..
    rw [hview, h.handed, g.handed, List.map_append]
  lines := by rw [Journal.lines_append, h.lines, g.lines, List.map_append]
  sends := by rw [Journal.sends_append, h.sends, g.sends, List.length_append, Nat.add_comm]
  writes := by rw [Journal.writes_append, h.writes, g.writes, List.length_append, Nat.add_comm]
  flushes := by rw [Journal.flushes_append, h.flushes, g.flushes, List.length_append, Nat.add_comm]

/-- Pauses print nothing. -/
lemma Printed.of_busy {j : Journal} {os : List Outcome} (h : Printed j.busy os) : Printed j os where
  handed :=
    (Journal.view_busy (fun _ ha => (Act.silent_of_isPause ha).handed) j).symm.trans h.handed
  lines := (Journal.view_busy (fun _ ha => (Act.silent_of_isPause ha).line) j).symm.trans h.lines
  sends := (Journal.countP_busy (fun _ ha => (Act.silent_of_isPause ha).send) j).symm.trans h.sends
  writes :=
    (Journal.countP_busy (fun _ ha => (Act.silent_of_isPause ha).write) j).symm.trans h.writes
  flushes :=
    (Journal.countP_busy (fun _ ha => (Act.silent_of_isPause ha).flush) j).symm.trans h.flushes

lemma Trial.printed {t : Trial} {o : Outcome} (h : t.Sound) (hf : t.fate = .told o) :
    o.number = t.number ∧ Printed t.acts [o] := by
  have ho : o.number = t.number := h.outcome o (by simp [hf, Fate.outcome?])
  refine ⟨ho, ?_, ?_, sends_acts h, ?_, ?_⟩
  · rw [handed_acts h, ← ho]
    rfl
  · rw [lines_acts h, hf]
    rfl
  · rw [writes_acts h, hf]
    rfl
  · rw [flushes_acts h, hf]
    rfl

/-- Trials that have not broken down have printed their outcomes. -/
lemma printed_actsOf {ts : List Trial} (hs : ∀ t ∈ ts, t.Sound)
    (hf : ∀ t ∈ ts, t.breakdown? = none) :
    (outcomesOf ts).map Outcome.number = ts.map Trial.number ∧
      Printed (actsOf ts) (outcomesOf ts) := by
  induction ts with
  | nil => exact ⟨rfl, rfl, rfl, rfl, rfl, rfl⟩
  | cons t ts ih =>
    obtain ⟨hnumbers, hprinted⟩ := ih (fun x hx => hs x (List.mem_cons_of_mem _ hx))
      fun x hx => hf x (List.mem_cons_of_mem _ hx)
    obtain ⟨o, hfate⟩ := Trial.told_of_breakdown (hf t (by simp))
    obtain ⟨hno, hfirst⟩ := Trial.printed (hs t (by simp)) hfate
    have hout : outcomesOf (t :: ts) = [o] ++ outcomesOf ts := by
      simp [outcomesOf, hfate, Fate.outcome?]
    rw [hout, actsOf_cons]
    refine ⟨?_, hfirst.append hprinted⟩
    rw [List.map_append, hnumbers, List.map_singleton, hno]
    rfl

/-- The outcome whose line is in the output. -/
def Fate.written? : Fate → Option Outcome
  | .lost _ | .unwritten _ _ => none
  | .unflushed o _ | .told o => some o

/-- The outcomes whose lines are in the output. -/
def writtenOf (ts : List Trial) : List Outcome := ts.filterMap (·.fate.written?)

lemma writtenOf_cons (t : Trial) (ts : List Trial) :
    writtenOf (t :: ts) = t.fate.written?.toList ++ writtenOf ts := by
  unfold writtenOf
  rw [List.filterMap_cons]
  rcases t.fate.written? with _ | o <;> rfl

lemma writtenOf_concat (ts : List Trial) (t : Trial) :
    writtenOf (ts ++ [t]) = writtenOf ts ++ t.fate.written?.toList := by
  unfold writtenOf
  rw [List.filterMap_append, List.filterMap_cons]
  rcases t.fate.written? with _ | o <;> rfl

lemma Fate.lines_report (f : Fate) :
    Journal.lines f.report = f.written?.toList.map Outcome.line := by
  rcases f with _ | _ | _ | _ <;> rfl

/-- Only lines that are written are flushed. -/
lemma Fate.flushes_report (f : Fate) : Journal.flushes f.report = f.written?.toList.length := by
  rcases f with _ | _ | _ | _ <;> rfl

/-- A line has the number of its trial. -/
lemma Trial.number_of_written {t : Trial} {o : Outcome} (h : t.Sound)
    (ho : t.fate.written? = some o) : o.number = t.number := by
  apply h.outcome
  rcases hf : t.fate with _ | _ | _ | _
  all_goals rw [hf] at ho
  · cases ho
  · cases ho
  · exact ho
  · exact ho

/-- Each line is that of a trial, and no trial has two. -/
lemma numbers_writtenOf {ts : List Trial} (hs : ∀ t ∈ ts, t.Sound) :
    ((writtenOf ts).map Outcome.number).Sublist (ts.map Trial.number) := by
  induction ts with
  | nil => exact List.Sublist.refl _
  | cons t ts ih =>
    obtain ⟨ht, hts⟩ := List.forall_mem_cons.mp hs
    rw [writtenOf_cons, List.map_append, List.map_cons]
    rcases hw : t.fate.written? with _ | o
    · exact (ih hts).cons _
    · rw [← Trial.number_of_written ht hw]
      exact (ih hts).cons_cons _

section actsOf

variable {ts : List Trial}

lemma view_actsOf {α : Type} (f : Act → Option α) (ts : List Trial) :
    Journal.view f (actsOf ts) = ts.flatMap fun t => Journal.view f t.acts := by
  induction ts with
  | nil => rfl
  | cons t ts ih => rw [actsOf_cons, Journal.view_append, ih, List.flatMap_cons]

lemma lines_actsOf (hs : ∀ t ∈ ts, t.Sound) :
    Journal.lines (actsOf ts) = (writtenOf ts).map Outcome.line := by
  induction ts with
  | nil => rfl
  | cons t ts ih =>
    obtain ⟨ht, hts⟩ := List.forall_mem_cons.mp hs
    rw [actsOf_cons, Journal.lines_append, Trial.lines_acts ht, Fate.lines_report, ih hts,
      writtenOf_cons, List.map_append]

lemma flushes_actsOf (hs : ∀ t ∈ ts, t.Sound) :
    Journal.flushes (actsOf ts) = (writtenOf ts).length := by
  induction ts with
  | nil => rfl
  | cons t ts ih =>
    obtain ⟨ht, hts⟩ := List.forall_mem_cons.mp hs
    rw [actsOf_cons, Journal.flushes_append, Trial.flushes_acts ht, Fate.flushes_report, ih hts,
      writtenOf_cons, List.length_append, Nat.add_comm]

lemma sends_actsOf (hs : ∀ t ∈ ts, t.Sound) : Journal.sends (actsOf ts) = ts.length := by
  induction ts with
  | nil => rfl
  | cons t ts ih =>
    obtain ⟨ht, hts⟩ := List.forall_mem_cons.mp hs
    rw [actsOf_cons, Journal.sends_append, Trial.sends_acts ht, ih hts, List.length_cons]

lemma handed_actsOf (hs : ∀ t ∈ ts, t.Sound) :
    Journal.handed (actsOf ts) = (ts.map Trial.number).map Probe.build := by
  unfold Journal.handed
  rw [view_actsOf, List.map_map, List.map_eq_flatMap]
  exact List.flatMap_congr fun t ht => Trial.handed_acts (hs t ht)

/-- A datagram goes out for each trial whose probe was not refused. -/
lemma length_departures_actsOf (hs : ∀ t ∈ ts, t.Sound) :
    (Journal.departures (actsOf ts)).length = ts.countP (·.given.isOk) := by
  induction ts with
  | nil => rfl
  | cons t ts ih =>
    obtain ⟨ht, hts⟩ := List.forall_mem_cons.mp hs
    have hlooks : ∀ a : Act, a.isLook → a.departure? = none := by
      intro a ha
      cases a with
      | received | noted => rfl
      | _ => cases ha
    have hreport : Journal.view Act.departure? t.fate.report = [] := by
      rcases t.fate with _ | _ | _ | _ <;> rfl
    have hacts : (Journal.view Act.departure? t.acts).length =
        if t.given.isOk then 1 else 0 := by
      rw [Trial.view_acts ht hlooks, hreport, List.append_nil]
      rcases t.given with e | n <;> rfl
    unfold Journal.departures at *
    rw [actsOf_cons, Journal.view_append, List.length_append, hacts, ih hts, List.countP_cons,
      Nat.add_comm]

end actsOf

namespace Rounds

/-- How the trials went, if the rounds are in this phase: only the last one may have broken down,
and then the rounds are over. At the end of a round they may break down as well. -/
def Went (ts : List Trial) : RoundsPhase → Prop
  | .ended (.error b) =>
    (∃ before t, ts = before ++ [t] ∧ t.breakdown? = some b ∧ ∀ x ∈ before, x.breakdown? = none) ∨
      (b = .overflow ∧ ∀ t ∈ ts, t.breakdown? = none)
  | _ => ∀ t ∈ ts, t.breakdown? = none

/-- The rounds that `p` has begun have made the trials `ts` so far. -/
structure Told (p : Prober) (ts : List Trial) (r : Rounds) : Prop where
  sound : ∀ t ∈ ts, t.Sound
  aims : ∀ t ∈ ts, t.target = p.target
  numbers : ts.map Trial.number = (List.range ts.length).map fun i => p.next + .ofNat i
  busy : r.prober.journal.busy = actsOf ts ++ p.journal.busy
  target : r.prober.target = p.target
  timeout : r.prober.timeout = p.timeout
  next : r.prober.next = p.next + .ofNat ts.length
  went : Went ts r.phase

variable {u : Surroundings} {count interval : Nat} {p : Prober} {r r' : Rounds} {ts : List Trial}

lemma told_start (p : Prober) : Told p [] ⟨p, .starting⟩ :=
  ⟨by simp, by simp, rfl, rfl, rfl, rfl, by simp, List.forall_mem_nil _⟩

lemma Told.pause (h : Told p ts r) {a : Act} (ha : a.isPause) {phase : RoundsPhase}
    (hphase : Went ts phase) : Told p ts ⟨r.prober.enter a, phase⟩ :=
  ⟨h.sound, h.aims, h.numbers, (Journal.busy_cons ha _).trans h.busy, h.target, h.timeout, h.next,
    hphase⟩

/-- One trial more, after a look for the request to stop. -/
lemma Told.tried (h : Told p ts r) (hr : ∀ t ∈ ts, t.breakdown? = none) {q : Prober} {t : Trial}
    (ht : Tried (r.prober.enter (.checked false)) q t) (left : Nat) :
    Told p (ts ++ [t]) ⟨q, after left t.breakdown?⟩ where
  sound := by
    intro x hx
    rcases List.mem_append.mp hx with hx | hx
    · exact h.sound x hx
    · rw [List.mem_singleton.mp hx]
      exact ht.sound
  aims := by
    intro x hx
    rcases List.mem_append.mp hx with hx | hx
    · exact h.aims x hx
    · rw [List.mem_singleton.mp hx]
      exact ht.aim.trans h.target
  numbers := by
    have hnumber : t.number = p.next + .ofNat ts.length := ht.number.trans h.next
    rw [List.map_append, h.numbers, List.length_append, List.length_singleton, List.range_succ,
      List.map_append, List.map_singleton, List.map_singleton, hnumber]
  busy := by
    have hbusy : (r.prober.enter (.checked false)).journal.busy = actsOf ts ++ p.journal.busy :=
      (Journal.busy_cons rfl _).trans h.busy
    rw [ht.journal, Journal.busy_append, Trial.busy_acts ht.sound, hbusy, actsOf_concat,
      List.append_assoc]
  target := ht.target.trans h.target
  timeout := ht.timeout.trans h.timeout
  next := by
    have hnext : q.next = r.prober.next + 1 := ht.next
    rw [hnext, h.next, List.length_append, List.length_singleton, UInt16.ofNat_add,
      UInt16.add_assoc]
    rfl
  went := by
    rcases hf : t.breakdown? with _ | b
    · intro x hx
      rcases List.mem_append.mp hx with hx | hx
      · exact hr x hx
      · rw [List.mem_singleton.mp hx]
        exact hf
    · exact .inl ⟨ts, t, rfl, hf, hr⟩

/-- A turn makes one trial more, or none. -/
lemma told_turned (h : Told p ts r) (ht : Turned u count interval r r') :
    ∃ ts', Told p ts' r' := by
  cases ht with
  | closed q _ => exact ⟨ts, h.pause rfl h.went⟩
  | opened q _ => exact ⟨ts, h.pause rfl h.went⟩
  | stopped q left _ => exact ⟨ts, h.pause rfl h.went⟩
  | tried q q' left t _ _ ht => exact ⟨ts ++ [t], h.tried h.went ht left⟩
  | paused q _ => exact ⟨ts, h.pause rfl h.went⟩
  | overflowed q _ => exact ⟨ts, h.pause rfl (.inr ⟨rfl, h.went⟩)⟩
  | roused q resume _ => exact ⟨ts, h.pause rfl h.went⟩
  | rested q q' resume _ hq _ =>
    subst hq
    exact ⟨ts, (h.pause (a := .checked false) rfl h.went).pause rfl h.went⟩
  | napped q q' resume _ hq _ =>
    subst hq
    exact ⟨ts, ((h.pause (a := .checked false) rfl h.went).pause (a := .timed _) rfl h.went).pause
      rfl h.went⟩

/-- What the pauses do not show is what the trials show. -/
lemma Told.view {α : Type} {f : Act → Option α} (h : Told p ts r)
    (hf : ∀ a, a.isPause → f a = none) :
    r.prober.journal.view f = p.journal.view f ++ Journal.view f (actsOf ts) := by
  rw [← Journal.view_busy hf, h.busy, Journal.view_append, Journal.view_busy hf]

lemma Told.countP {c : Act → Bool} (h : Told p ts r) (hc : ∀ a, a.isPause → c a = false) :
    r.prober.journal.countP c = p.journal.countP c + (actsOf ts).countP c := by
  rw [← Journal.countP_busy hc, h.busy, List.countP_append, Journal.countP_busy hc, Nat.add_comm]

/-- What the rounds have done is, without the pauses, what the trials have left. -/
lemma Told.busy_acts (h : Told p ts r) {acts : Journal}
    (hacts : r.prober.journal = acts ++ p.journal) : Journal.busy acts = actsOf ts := by
  have hall := h.busy
  rw [hacts, Journal.busy_append] at hall
  exact List.append_cancel_right hall

/-- Where no trial has broken down, each has printed its outcome. -/
lemma Told.printed (h : Told p ts r) {acts : Journal}
    (hacts : r.prober.journal = acts ++ p.journal) (hts : ∀ t ∈ ts, t.breakdown? = none) :
    Printed acts (outcomesOf ts) := by
  obtain ⟨-, hprinted⟩ := printed_actsOf h.sound hts
  rw [← h.busy_acts hacts] at hprinted
  exact hprinted.of_busy

/-- Where no act of the rounds has failed, no trial has met a fault. -/
lemma Told.breakdown_of_ok (h : Told p ts r) {acts : Journal}
    (hacts : r.prober.journal = acts ++ p.journal) (hok : ∀ a ∈ acts, a.failure? = none)
    {t : Trial} (ht : t ∈ ts) (e : Fault) : t.breakdown? ≠ some (.fault e) := by
  intro hf
  obtain ⟨a, ha, hfail⟩ := (h.sound t ht).failure e hf
  have hof : a ∈ actsOf ts := List.mem_flatMap.mpr ⟨t, List.mem_reverse.mpr ht, ha⟩
  rw [← h.busy_acts hacts] at hof
  rw [hok a (List.mem_of_mem_filter hof)] at hfail
  cases hfail

/-- **A run of rounds is a row of trials.** -/
theorem told_run (u : Surroundings) (count interval n : Nat) (p : Prober) :
    ∃ ts, Told p ts (run u count interval n ⟨p, .starting⟩) :=
  run_induction (P := fun r => ∃ ts, Told p ts r) ⟨[], told_start p⟩
    (fun _ _ ⟨_, h⟩ ht => told_turned h ht) n

end Rounds

end Prober

end PortEcho
