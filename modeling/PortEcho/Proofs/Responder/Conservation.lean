import PortEcho.Proofs.Responder.Account

/-!
The counters of a responder against its journal.

Whatever comes in and whichever lines, flushes and replies are refused, a datagram that was
received is accounted for by its line, by its flush, by its reply or by a failure, and the bytes
echoed are those that the lines of the answered datagrams report.
-/

namespace PortEcho

/-- The line was refused. -/
def Act.isRefusedWrite : Act → Bool
  | .wrote _ (some _) => true
  | _ => false

/-- The flush was refused. -/
def Act.isRefusedFlush : Act → Bool
  | .flushed (some _) => true
  | _ => false

def Journal.refusedWrites (j : Journal) : Nat := j.countP Act.isRefusedWrite

def Journal.refusedFlushes (j : Journal) : Nat := j.countP Act.isRefusedFlush

namespace Responder

namespace Handling

@[simp] lemma refusedWrites_acts (h : Handling) :
    Journal.refusedWrites h.acts = if h.isUnwritten then 1 else 0 := by
  rcases hf : h.fate with e | e | e | n
  all_goals simp [acts, hf, printed, opening, isUnwritten, Journal.refusedWrites,
    Act.isRefusedWrite, List.countP_cons]

@[simp] lemma refusedFlushes_acts (h : Handling) :
    Journal.refusedFlushes h.acts = if h.isUnflushed then 1 else 0 := by
  rcases hf : h.fate with e | e | e | n
  all_goals simp [acts, hf, printed, opening, isUnflushed, Journal.refusedFlushes,
    Act.isRefusedFlush, List.countP_cons]

/-- The bytes that the handling adds to those echoed. -/
def echoed (h : Handling) : Nat :=
  match h.fate with
  | .answered n => n
  | _ => 0

/-- A counter to which each handling adds its share has all shares added to it. -/
lemma foldl_count {g : Tally → UInt64} {c : Handling → Nat}
    (hg : ∀ t h, g (count t h) = g t + .ofNat (c h)) (hs : List Handling) (t : Tally) :
    g (hs.foldl count t) = g t + .ofNat (hs.map c).sum := by
  induction hs generalizing t with
  | nil => simp
  | cons h hs ih =>
    rw [List.foldl_cons, ih, hg, List.map_cons, List.sum_cons, UInt64.ofNat_add, UInt64.add_assoc]

lemma foldl_received (hs : List Handling) (t : Tally) :
    (hs.foldl count t).received = t.received + .ofNat hs.length := by
  have hg : ∀ t h, (count t h).received = t.received + .ofNat 1 := by
    intro t h
    unfold count
    rcases h.fate with _ | _ | _ | _ <;> rfl
  simpa using foldl_count hg hs t

lemma foldl_failures (hs : List Handling) (t : Tally) :
    (hs.foldl count t).failures = t.failures + .ofNat (hs.countP isRefused) := by
  have hg : ∀ t h, (count t h).failures = t.failures + .ofNat (if isRefused h then 1 else 0) := by
    intro t h
    unfold count isRefused
    rcases h.fate with _ | _ | _ | _ <;> simp [Tally.countReceived, Tally.countFailure,
      Tally.countEchoed]
  rw [← sum_ite_one]
  exact foldl_count hg hs t

lemma foldl_echoed (hs : List Handling) (t : Tally) :
    (hs.foldl count t).echoed = t.echoed + .ofNat (hs.map echoed).sum := by
  have hg : ∀ t h, (count t h).echoed = t.echoed + .ofNat (echoed h) := by
    intro t h
    unfold count echoed
    rcases h.fate with _ | _ | _ | _ <;> simp [Tally.countReceived, Tally.countFailure,
      Tally.countEchoed]
  exact foldl_count hg hs t

/-- Every handling has one of four fates. -/
lemma countP_fates (hs : List Handling) :
    hs.countP isUnwritten + hs.countP isUnflushed + hs.countP isRefused + hs.countP isAnswered =
      hs.length := by
  induction hs with
  | nil => rfl
  | cons h hs ih =>
    simp only [List.countP_cons, List.length_cons]
    rcases hf : h.fate with e | e | e | n <;>
      simp [isUnwritten, isUnflushed, isRefused, isAnswered, hf] <;> omega

lemma countP_isKept (hs : List Handling) :
    hs.countP isKept + hs.countP isUnwritten = hs.length := by
  induction hs with
  | nil => rfl
  | cons h hs ih =>
    simp only [List.countP_cons, List.length_cons, isKept]
    by_cases hu : h.isUnwritten <;> simp [hu] <;> omega

lemma echoed_eq {w : Surroundings} (hw : w.SendsWhole) {h : Handling} (hp : h.Possible w) :
    h.echoed = if h.isAnswered then h.report.size else 0 := by
  rcases hf : h.fate with e | e | e | n
  · simp [echoed, isAnswered, hf]
  · simp [echoed, isAnswered, hf]
  · simp [echoed, isAnswered, hf]
  · have hn := size_eq hw hp hf
    simp [echoed, isAnswered, hf, hn, report, reply, Report.ofDatagram]

end Handling

/-- The books of a responder that has taken `taken` of what came in, and handled `hs`. -/
structure Conserved (w : Surroundings) (s : Station) (arrived taken : List Receipt)
    (hs : List Handling) : Prop where
  order : arrived = taken ++ s.queue
  account : Account [] s.journal hs
  handled : hs.map Handling.datagram = (datagramsIn taken).map (Datagram.cut bufferSize)
  datagrams : s.journal.datagrams = hs.map Handling.datagram
  lines : s.journal.lines = (hs.filter Handling.isKept).map Handling.line
  departures : s.journal.departures =
    (hs.filter Handling.isAnswered).map fun h => (h.datagram.source, h.reply)
  /-- Each handling has been counted, once and by its fate. -/
  tally : ∃ now, s.desk.tally = hs.foldl Handling.count { started := now }
  received : s.desk.tally.received.toNat = (datagramsIn taken).length
  kept : s.journal.lines.length + s.journal.refusedWrites = s.desk.tally.received.toNat
  flushes : s.journal.flushes = s.journal.lines.length
  replies : s.journal.departures.length + s.desk.tally.failures.toNat +
    s.journal.refusedWrites + s.journal.refusedFlushes = s.desk.tally.received.toNat
  echoed : s.desk.tally.echoed.toNat =
    ((hs.filter Handling.isAnswered).map fun h => h.report.size).sum
  sizes : s.desk.tally.echoed.toNat =
    ((hs.filter Handling.isAnswered).map fun h => min 15 h.datagram.bytes.length).sum
  /-- A reply comes after the printed line of its own datagram. -/
  printed : ∀ later dest bytes given earlier,
    s.journal = later ++ .sent dest bytes given :: earlier →
      ∃ h ∈ hs, dest = h.datagram.source ∧ bytes = h.reply ∧ h.printed <+: earlier
  /-- A datagram whose line or flush is refused next is received, and nothing else. -/
  refusal : ∀ d e k, (s.desk.enter (.received (.ok d))).handle w d = (some e, k) →
    k.tally = s.desk.tally.countReceived ∧ k.journal.datagrams = s.journal.datagrams ++ [d] ∧
      k.journal.sends = s.journal.sends ∧ k.journal.departures = s.journal.departures

lemma Desk.handle_refusal {w : Surroundings} {d : Datagram} {e : Fault} {k k' : Desk}
    (h : (k.enter (.received (.ok d))).handle w d = (some e, k')) :
    k'.tally = k.tally.countReceived ∧ k'.journal.datagrams = k.journal.datagrams ++ [d] ∧
      k'.journal.sends = k.journal.sends ∧ k'.journal.departures = k.journal.departures := by
  obtain ⟨g, hg'⟩ : ∃ g, g = k.handling w d := ⟨_, rfl⟩
  have hd : g.datagram = d := by rw [hg']; rfl
  rw [Desk.handle_eq, ← hg', Prod.mk.injEq] at h
  obtain ⟨hf, hk⟩ := h
  subst hk hd
  rcases hg : g.fate with e' | e' | e' | n
  · simp [Handling.count, hg, Handling.acts, Handling.opening, Act.datagram?, Act.isSend,
      Act.departure?]
  · simp [Handling.count, hg, Handling.acts, Handling.opening, Act.datagram?, Act.isSend,
      Act.departure?]
  · simp [Handling.fault?, hg] at hf
  · simp [Handling.fault?, hg] at hf

lemma Account.refusals {j : Journal} {hs : List Handling} (h : Account [] j hs) :
    j.refusedWrites = hs.countP Handling.isUnwritten ∧
      j.refusedFlushes = hs.countP Handling.isUnflushed := by
  have hidle : ∀ a : Act, a.isIdle → a.isRefusedWrite = false ∧ a.isRefusedFlush = false := by
    rintro (_ | _ | _ | _ | _ | _ | _ | _ | _ | _) ha <;> first | exact ⟨rfl, rfl⟩ | cases ha
  have hsw : (hs.map fun g => Journal.refusedWrites g.acts).sum =
      hs.countP Handling.isUnwritten := by
    simp [sum_ite_one]
  have hsf : (hs.map fun g => Journal.refusedFlushes g.acts).sum =
      hs.countP Handling.isUnflushed := by
    simp [sum_ite_one]
  rw [← hsw, ← hsf]
  have hcw := h.countP fun a ha => (hidle a ha).1
  have hcf := h.countP fun a ha => (hidle a ha).2
  simp only [List.countP_nil, Nat.zero_add] at hcw hcf
  exact ⟨hcw, hcf⟩

lemma conserved_of_advance {w : Surroundings} (hw : w.SendsWhole) {settings : Settings}
    {s : Station} {arrived taken : List Receipt} {hs : List Handling}
    (ha : Advance w (Station.listen w settings).2 s arrived taken hs)
    (hr : s.journal.datagrams.length < 2 ^ 64)
    (he : (s.journal.departures.map fun d => d.2.length).sum < 2 ^ 64) :
    Conserved w s arrived taken hs := by
  have hacc : Account [] s.journal hs := (Station.account_listen w settings).trans ha.account
  have hdat : s.journal.datagrams = hs.map Handling.datagram := hacc.datagrams
  have hlines : s.journal.lines = (hs.filter Handling.isKept).map Handling.line := hacc.lines
  have hdep := hacc.departures hw ha.possible
  simp only [Journal.departures, Journal.view_nil, List.nil_append] at hdep
  have hflush : s.journal.flushes = hs.countP Handling.isKept := by
    simpa [Journal.flushes] using hacc.flushes
  obtain ⟨hwrites, hflushes⟩ := hacc.refusals
  obtain ⟨now, htally⟩ := Station.tally_listen w settings
  have hn : hs.length < 2 ^ 64 := by rwa [hdat, List.length_map] at hr
  have hsum : (hs.map Handling.echoed).sum =
      ((hs.filter Handling.isAnswered).map fun h => h.report.size).sum := by
    rw [← sum_ite]
    exact congrArg List.sum (List.map_congr_left fun h hm =>
      Handling.echoed_eq hw (ha.possible h hm))
  have hsize : ∀ h : Handling, h.report.size = h.reply.length := fun h => rfl
  have horder : arrived = taken ++ s.queue := by simpa using ha.queue
  have htaken : (datagramsIn taken).length = hs.length := by
    simpa using (congrArg List.length ha.datagrams).symm
  have hreceived : s.desk.tally.received.toNat = hs.length := by
    rw [ha.tally, htally, Handling.foldl_received]
    simpa using Nat.mod_eq_of_lt hn
  have hfailures : s.desk.tally.failures.toNat = hs.countP Handling.isRefused := by
    rw [ha.tally, htally, Handling.foldl_failures]
    simpa using Nat.mod_eq_of_lt (Nat.lt_of_le_of_lt List.countP_le_length hn)
  have hechoed : s.desk.tally.echoed.toNat =
      ((hs.filter Handling.isAnswered).map fun h => h.report.size).sum := by
    rw [ha.tally, htally, Handling.foldl_echoed, hsum]
    have hlt : ((hs.filter Handling.isAnswered).map fun h => h.report.size).sum < 2 ^ 64 := by
      simpa [Journal.departures, hdep, hsize, Function.comp_def] using he
    simpa using Nat.mod_eq_of_lt hlt
  have hfates := Handling.countP_fates hs
  have hkept := Handling.countP_isKept hs
  refine ⟨horder, hacc, ha.datagrams, hdat, hlines, hdep, ⟨now, htally ▸ ha.tally⟩, ?_, ?_, ?_, ?_,
    hechoed, ?_, ?_, ?_⟩
  · rw [hreceived, htaken]
  · rw [hlines, hwrites, hreceived, List.length_map, ← List.countP_eq_length_filter, hkept]
  · rw [hflush, hlines, List.length_map, List.countP_eq_length_filter]
  · have hlen : s.journal.departures.length = hs.countP Handling.isAnswered := by
      simp [Journal.departures, hdep, List.countP_eq_length_filter]
    rw [hlen, hfailures, hwrites, hflushes, hreceived]
    omega
  · simp only [hechoed, hsize, Handling.reply, Probe.length_reply]
    rfl
  · intro later dest bytes given earlier hj
    exact hacc.printed_of_sent hj
  · intro d e k h
    exact Desk.handle_refusal h

namespace Service

/-- The tally that a service leaves is that of its desk. -/
lemma tally_of_result {w : Surroundings} {s : Service} (n : Nat)
    (h : ∀ t, s.result? = some (.ok t) → t = s.station.desk.tally) :
    ∀ t, (s.run w n).result? = some (.ok t) → t = (s.run w n).station.desk.tally := by
  induction n generalizing s with
  | zero => exact h
  | succ n ih =>
    unfold run
    by_cases hr : s.result?.isSome
    · simpa [hr] using h
    · simp only [hr]
      refine ih fun t ht => ?_
      unfold turn at ht ⊢
      rcases s with ⟨s, _ | _ | result⟩
      · simp only [check] at ht ⊢
        by_cases hst : w.stop s.journal
        · simp only [hst, if_true, result?] at ht ⊢
          exact (Except.ok.inj (Option.some.inj ht)).symm
        · simp [hst, result?] at ht
      · simp only at ht ⊢
        rcases hph : s.phase with _ | ⟨m, k⟩
        · simp only [hph, leave] at ht
          rcases hout : s.outcome with _ | e | _ <;> simp [hout, result?] at ht
        · simp [hph, result?] at ht
      · simp [result?] at hr

end Service

/-- **Conservation.** Whatever has come in, however arrivals, polls and a whole service follow each
other, and whatever the output and the socket refuse, the books of a responder balance: what has
come in is what was taken and what is queued, and each datagram taken is accounted for. -/
theorem conserved_run {w : Surroundings} (hw : w.SendsWhole) (settings : Settings)
    (es : List Event) (n : Nat) {s : Service}
    (hs : s = Service.run w n ⟨(Station.listen w settings).2.run w es, .checking⟩)
    (hr : s.journal.datagrams.length < 2 ^ 64)
    (he : (s.journal.departures.map fun d => d.2.length).sum < 2 ^ 64) :
    (∃ taken gs, Conserved w s.station
      (arrivals es ++ Service.arrivedIn w n ⟨(Station.listen w settings).2.run w es, .checking⟩)
      taken gs) ∧
      ∀ t, s.result? = some (.ok t) → t = s.station.desk.tally := by
  obtain ⟨k, gs, hes⟩ := (Station.listen w settings).2.advance_run w es
  obtain ⟨k', gs', hrun⟩ :=
    Service.advance_arrivedIn w n ⟨(Station.listen w settings).2.run w es, .checking⟩
  rw [← hs] at hrun
  refine ⟨⟨k ++ k', gs ++ gs', conserved_of_advance hw (hes.trans hrun) hr he⟩, ?_⟩
  rw [hs]
  exact Service.tally_of_result n (by simp [Service.result?])

/-- A line refused, then a reply refused, then a reply sent: one each of three datagrams. -/
theorem conserved_run_faulty :
    let s := Service.run faulty 8 ⟨(Station.listen faulty ⟨7⟩).2.run faulty mixed, .checking⟩
    faulty.SendsWhole ∧ s.journal.datagrams.length < 2 ^ 64 ∧
      (s.journal.departures.map fun d => d.2.length).sum < 2 ^ 64 ∧
      (∃ taken gs, Conserved faulty s.station (arrivals mixed) taken gs) ∧
      ∀ t, s.result? = some (.ok t) → t = s.station.desk.tally := by
  intro s
  have hr : s.journal.datagrams.length < 2 ^ 64 := by decide
  have he : (s.journal.departures.map fun d => d.2.length).sum < 2 ^ 64 := by decide
  exact ⟨faulty_sendsWhole, hr, he, conserved_run faulty_sendsWhole ⟨7⟩ mixed 8 rfl hr he⟩

end Responder

end PortEcho
