import PortEcho.Proofs.Responder.Account

/-!
What a responder lets show.

What leaves a responder while it handles a datagram, and what it counts, is settled by the sender,
the time, the answers of the output and of the socket, and as many bytes as a reply holds. The rest
of the datagram does not show, nor does anything that was handled before, although the buffer may
still hold it.
-/

namespace PortEcho

/-- The act shows outside. Notices are for the one who runs the program. -/
def Act.isOutward : Act → Bool
  | .wrote .. | .flushed .. | .sent .. => true
  | _ => false

/-- What the journal shows outside, the latest first. -/
def Journal.outward (j : Journal) : List Act := j.filter Act.isOutward

/-- What the counters have gained since `before`. -/
def Tally.gain (before after : Tally) : UInt64 × UInt64 × UInt64 :=
  (after.received - before.received, after.echoed - before.echoed, after.failures - before.failures)

/-- The number of a datagram is in its reply. -/
lemma Probe.number_reply (bytes : Bytes) : number (reply bytes) = number bytes := by
  have hget : ∀ i < maxReply, (bytes.take maxReply).getD i 0 = bytes.getD i 0 := by
    intro i hi
    rw [List.getD_eq_getElem?_getD, List.getD_eq_getElem?_getD, List.getElem?_take_of_lt hi]
  unfold number reply
  rw [hget 0 (by decide), hget 1 (by decide)]

/-- A report tells no more of a datagram than the reply to it. -/
lemma Report.ofDatagram_congr {time : TimeOfDay} {d e : Datagram} (hsource : d.source = e.source)
    (hreply : Probe.reply d.bytes = Probe.reply e.bytes) :
    ofDatagram time d = ofDatagram time e := by
  have hnumber : Probe.number d.bytes = Probe.number e.bytes := by
    rw [← Probe.number_reply, hreply, Probe.number_reply]
  unfold ofDatagram
  rw [hnumber, hreply, hsource]

namespace Responder

namespace Handling

/-- The handlings agree in all that settles what shows. -/
structure Alike (h g : Handling) : Prop where
  source : h.datagram.source = g.datagram.source
  reply : h.reply = g.reply
  time : h.time = g.time
  fate : h.fate = g.fate

/-- The acts of the handling that show. -/
def shown (h : Handling) : List Act :=
  match h.fate with
  | .unwritten e => [.wrote h.line (some e)]
  | .unflushed e => [.flushed (some e), .wrote h.line none]
  | .refused e => [.sent h.datagram.source h.reply (.error e), .flushed none, .wrote h.line none]
  | .answered n => [.sent h.datagram.source h.reply (.ok n), .flushed none, .wrote h.line none]

lemma outward_acts (h : Handling) : Journal.outward h.acts = h.shown := by
  unfold acts shown
  rcases h.fate with e | e | e | n
  · rfl
  · rfl
  · rfl
  · by_cases hn : n < h.reply.length <;> simp only [hn] <;> rfl

/-- What is sent is the reply, to the sender. -/
lemma of_sent_mem_shown {h : Handling} {dest : Endpoint} {bytes : Bytes} {given : Except Fault Nat}
    (hs : .sent dest bytes given ∈ h.shown) : dest = h.datagram.source ∧ bytes = h.reply := by
  rcases hf : h.fate with e | e | e | n <;> simp [shown, hf] at hs
  · exact ⟨hs.1, hs.2.1⟩
  · exact ⟨hs.1, hs.2.1⟩

namespace Alike

variable {h g : Handling}

lemma shown_eq (ha : Alike h g) : h.shown = g.shown := by
  have hline : h.line = g.line := by
    unfold line report
    rw [ha.time, Report.ofDatagram_congr ha.source ha.reply]
  unfold shown
  rw [ha.fate, ha.source, ha.reply, hline]

lemma gain_eq (ha : Alike h g) (t u : Tally) : t.gain (h.count t) = u.gain (g.count u) := by
  have hgain : ∀ a b : UInt64, a + b - a = b := by
    intro a b
    rw [UInt64.add_comm, UInt64.add_sub_cancel]
  unfold count Tally.gain
  rw [ha.fate]
  rcases g.fate with e | e | e | n <;>
    simp [Tally.countReceived, Tally.countEchoed, Tally.countFailure, hgain]

end Alike

end Handling

/-- Within a drain, the oldest datagram is handled as far as the buffer takes it. -/
lemma Station.desk_step_receive (w : Surroundings) {s : Station} {m n : Nat} {d : Datagram}
    {rest : List Receipt} {h : Handling} (hphase : s.phase = .draining m n)
    (hq : s.queue = .ok d :: rest) (hh : h = s.desk.handling w (d.cut bufferSize)) :
    (s.step w .receive).desk = ⟨h.count s.desk.tally, h.acts ++ s.journal⟩ := by
  have hcut : (Except.ok d : Receipt).map (Datagram.cut bufferSize) = .ok (d.cut bufferSize) := rfl
  rw [step_receive_cons w hphase hq, hcut, take_ok (s := s.without (.ok d) rest) w m n hh]
  rcases h.fault? with _ | e <;> rfl

/-- **Noninterference.** Two datagrams from one sender that begin alike are handled at the same time
with the same answers, by stations that may have been through anything. Then both stations show the
same line and reply and count the same, and the reply is the beginning of the datagram. -/
theorem receive_alike {w w' : Surroundings} {s s' t t' : Station} {m m' n n' : Nat}
    {d d' : Datagram} {rest rest' : List Receipt}
    (hphase : s.phase = .draining m n) (hphase' : s'.phase = .draining m' n')
    (hq : s.queue = .ok d :: rest) (hq' : s'.queue = .ok d' :: rest')
    (hsource : d.source = d'.source) (hbytes : d.bytes.take 15 = d'.bytes.take 15)
    (htime : (s.desk.handling w (d.cut bufferSize)).time =
      (s'.desk.handling w' (d'.cut bufferSize)).time)
    (hfate : (s.desk.handling w (d.cut bufferSize)).fate =
      (s'.desk.handling w' (d'.cut bufferSize)).fate)
    (ht : t = s.step w .receive) (ht' : t' = s'.step w' .receive) :
    (∃ shown, t.journal.outward = shown ++ s.journal.outward ∧
      t'.journal.outward = shown ++ s'.journal.outward ∧
      ∀ dest bytes given, .sent dest bytes given ∈ shown →
        dest = d.source ∧ bytes = d.bytes.take 15) ∧
    s.desk.tally.gain t.desk.tally = s'.desk.tally.gain t'.desk.tally := by
  obtain ⟨h, hh⟩ : ∃ h, h = s.desk.handling w (d.cut bufferSize) := ⟨_, rfl⟩
  obtain ⟨g, hg⟩ : ∃ g, g = s'.desk.handling w' (d'.cut bufferSize) := ⟨_, rfl⟩
  have hreply : h.reply = d.bytes.take 15 := by
    rw [hh]
    exact reply_cut d
  have hreply' : g.reply = d'.bytes.take 15 := by
    rw [hg]
    exact reply_cut d'
  have hdest : h.datagram.source = d.source := by rw [hh]; rfl
  have hdest' : g.datagram.source = d'.source := by rw [hg]; rfl
  have halike : h.Alike g :=
    { source := by rw [hdest, hdest', hsource]
      reply := by rw [hreply, hreply', hbytes]
      time := by rw [hh, hg, htime]
      fate := by rw [hh, hg, hfate] }
  have hdesk := Station.desk_step_receive w hphase hq hh
  have hdesk' := Station.desk_step_receive w' hphase' hq' hg
  have hout : t.journal.outward = h.shown ++ s.journal.outward := by
    rw [ht, Station.journal, hdesk, ← h.outward_acts]
    exact List.filter_append ..
  have hout' : t'.journal.outward = g.shown ++ s'.journal.outward := by
    rw [ht', Station.journal, hdesk', ← g.outward_acts]
    exact List.filter_append ..
  refine ⟨⟨h.shown, hout, ?_, ?_⟩, ?_⟩
  · rw [hout', halike.shown_eq]
  · intro dest bytes given hs
    obtain ⟨rfl, rfl⟩ := Handling.of_sent_mem_shown hs
    exact ⟨hdest, hreply⟩
  · rw [ht, ht', hdesk, hdesk']
    exact halike.gain_eq _ _

/-- Sixteen bytes after a line and a reply were refused, and more than the buffer holds after
nothing but a poll: they begin alike. -/
theorem receive_alike_beyondBuffer :
    let long : Datagram := ⟨.v4 .loopback 1, 3 :: List.replicate 1029 0⟩
    let s := (Station.listen faulty ⟨7⟩).2.run faulty (mixed ++ [.arrive (call 1 3), .poll])
    let s' := (Station.listen {} ⟨8⟩).2.run {} [.arrive (.ok long), .poll]
    let t := s.step faulty .receive
    let t' := s'.step {} .receive
    (s.queue = [call 1 3] ∧ s'.queue = [.ok long] ∧ bufferSize < long.bytes.length) ∧
      (∃ shown, t.journal.outward = shown ++ s.journal.outward ∧
        t'.journal.outward = shown ++ s'.journal.outward ∧
        ∀ dest bytes given, .sent dest bytes given ∈ shown →
          dest = .v4 .loopback 1 ∧ bytes = 3 :: List.replicate 14 0) ∧
      s.desk.tally.gain t.desk.tally = s'.desk.tally.gain t'.desk.tally := by
  intro long s s' t t'
  have hphase : s.phase = .draining 0 0 := by decide
  have hphase' : s'.phase = .draining 0 0 := by decide
  have hq : s.queue = [call 1 3] := by decide
  have hq' : s'.queue = [.ok long] := rfl
  have hlong : bufferSize < long.bytes.length := by
    rw [List.length_cons, List.length_replicate]
    decide
  exact ⟨⟨hq, hq', hlong⟩, receive_alike hphase hphase' hq hq' rfl (by decide) rfl rfl rfl rfl⟩

end Responder

end PortEcho
