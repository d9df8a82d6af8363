import Mathlib.Data.List.Forall2
import PortEcho.Proofs.Exchange.Basic
import PortEcho.Proofs.Probe

/-!
Which probe a reply answers.

Whatever is queued at either end and came from the other can be traced to a ping: at the responder
it is the probe of that ping, at the prober the reply to it. A reply is accepted only if its number
is that of the ping under way, so a reply to another ping can be accepted only after all numbers
have been used.
-/

namespace PortEcho.Exchange

open Responder (Station Event)

/-- The number of a ping, if the first ping has the number `first`. -/
def numberOf (first : UInt16) (i : Nat) : UInt16 := first + .ofNat i

/-- The probe of a ping. -/
def probeOf (peer : Endpoint) (first : UInt16) (i : Nat) : Parcel :=
  ⟨.ping i, peer, Probe.build (numberOf first i)⟩

/-- The reply to the probe of a ping. -/
def replyOf (me : Endpoint) (first : UInt16) (i : Nat) : Parcel :=
  ⟨.ping i, me, Probe.reply (Probe.build (numberOf first i))⟩

lemma numberOf_succ (first : UInt16) (i : Nat) : numberOf first i + 1 = numberOf first (i + 1) := by
  simp [numberOf, UInt16.ofNat_add, UInt16.add_assoc]

lemma numberOf_inj {first : UInt16} {i j : Nat} :
    numberOf first i = numberOf first j ↔ i % 65536 = j % 65536 := by
  unfold numberOf
  rw [UInt16.add_right_inj, ← UInt16.toNat_inj]
  simp

/-- A datagram that is `ours` is one of the parcels to `dest`, and has its origin. -/
def Carried (cs : List Parcel) (dest : Endpoint) (ours : Datagram → Prop) (o : Origin)
    (r : Receipt) : Prop :=
  ∀ d, r = .ok d → ours d → ⟨o, dest, d.bytes⟩ ∈ cs

/-- The ping numbered `j` ended with the reply to a probe that had its own number. -/
structure Credited (me peer : Endpoint) (first : UInt16) (probes replies : List Parcel) (j : Nat)
    (n : UInt16) (size : Nat) (last : Option (Receipt × Origin)) : Prop where
  number : n = numberOf first j
  length : size = 15
  sent : probeOf peer first j ∈ probes
  reply : ∃ i ≤ j, numberOf first i = n ∧ probeOf peer first i ∈ probes ∧
    replyOf me first i ∈ replies ∧
      ∃ source, last = some (.ok ⟨source, (replyOf me first i).bytes⟩, .ping i)

/-- All that is on its way between the two has its origin in a ping. -/
structure Traced (me peer : Endpoint) (first : UInt16) (x : Exchange) : Prop where
  target : x.prober.target = peer
  next : x.prober.next = numberOf first x.begun
  begun : x.endings.length + x.flight.toList.length = x.begun
  flight : ∀ f, x.flight = some f → f.number = numberOf first x.endings.length ∧
    probeOf peer first x.endings.length ∈ x.probes
  probes : ∀ c ∈ x.probes, ∃ i < x.begun, c = probeOf peer first i
  queue : List.Forall₂ (Carried x.probes peer (·.source = me)) x.queueOrigins x.station.queue
  replies : ∀ c ∈ x.replies, c.dest = me →
    ∃ i, c = replyOf me first i ∧ probeOf peer first i ∈ x.probes
  inbox : List.Forall₂ (Carried x.replies me (·.source.port = peer.port)) x.inboxOrigins
    x.prober.inbox
  endings : ∀ j n size last, x.endings[j]? = some ⟨.ok (.reply n size), last⟩ →
    Credited me peer first x.probes x.replies j n size last

lemma Carried.mono {cs ds : List Parcel} {dest : Endpoint} {ours : Datagram → Prop} {o : Origin}
    {r : Receipt} (h : Carried cs dest ours o r) (hs : cs ⊆ ds) : Carried ds dest ours o r :=
  fun d hd hours => hs (h d hd hours)

lemma Credited.mono {me peer : Endpoint} {first : UInt16} {cs ds cs' ds' : List Parcel} {j : Nat}
    {n : UInt16} {size : Nat} {last : Option (Receipt × Origin)}
    (h : Credited me peer first cs ds j n size last) (hc : cs ⊆ cs') (hd : ds ⊆ ds') :
    Credited me peer first cs' ds' j n size last := by
  obtain ⟨i, hi, hn, hprobe, hreply, hlast⟩ := h.reply
  exact ⟨h.number, h.length, hc h.sent, i, hi, hn, hc hprobe, hd hreply, hlast⟩

lemma sentSince_eq {i j : Journal} {sent : List (Endpoint × Bytes)} (o : Origin)
    (h : j.departures = i.departures ++ sent) :
    i.sentSince j o = sent.map fun d => ⟨o, d.1, d.2⟩ := by
  unfold Journal.sentSince
  rw [h, List.drop_left]

/-- The exchange once the next ping has sent its probe, with the journal that this leaves. -/
def aloft (j : Journal) (x : Exchange) : Exchange :=
  { x with
    prober := { x.prober with next := x.prober.next + 1, journal := j }
    flight := some ⟨x.prober.next⟩
    begun := x.begun + 1
    probes := x.probes ++ [⟨.ping x.begun, x.prober.target, Probe.build x.prober.next⟩] }

/-- A ping sends no probe and is over, or sends its probe. Then it is under way, or is over since
the clock cannot tell its deadline. -/
lemma ping_cases {u : Surroundings} (hu : u.SendsWhole) (x : Exchange) : ∃ j : Journal,
    (∃ e, x.ping u = { x with
      prober := { x.prober with next := x.prober.next + 1, journal := j }
      flight := none
      begun := x.begun + 1
      endings := x.endings ++ [⟨.error e, none⟩] }) ∨
    x.ping u = x.aloft j ∨
    x.ping u = (x.aloft j).finish ⟨.error .overflow, none⟩ (x.aloft j).prober := by
  refine ⟨(x.prober.launch u).2.journal, ?_⟩
  unfold Exchange.ping
  rcases Prober.launch_cases u x.prober with ⟨e, hl⟩ | ⟨n, hs, -, hl⟩ | ⟨n, hs, -, hl⟩
  · rw [hl]
    exact .inl ⟨.fault e, by simp [finish, Journal.sentSince, Act.departure?]⟩
  all_goals
    have hwhole : (Probe.build x.prober.next).take n = Probe.build x.prober.next := by
      rw [hu _ _ _ _ hs, List.take_length]
    rw [hl]
  · exact .inr (.inr (by
      simp [finish, aloft, Prober.dispatched, Journal.sentSince, Act.departure?, hwhole]))
  · exact .inr (.inl (by
      simp [aloft, Prober.dispatched, Journal.sentSince, Act.departure?, hwhole]))

lemma getElem?_concat_cases {α : Type} {xs : List α} {a b : α} {j : Nat}
    (h : (xs ++ [a])[j]? = some b) : xs[j]? = some b ∨ (j = xs.length ∧ b = a) := by
  rcases Nat.lt_or_ge j xs.length with hj | hj
  · rw [List.getElem?_append_left hj] at h
    exact .inl h
  · rw [List.getElem?_append_right hj, List.getElem?_singleton] at h
    split at h
    · exact .inr ⟨by omega, (Option.some.inj h).symm⟩
    · cases h

namespace Traced

variable {u w : Surroundings} {me peer : Endpoint} {first : UInt16} {x : Exchange}

lemma start {p : Prober} {s : Station} (hp : p.inbox = [])
    (hs : ∀ d, .ok d ∈ s.queue → d.source ≠ me) :
    Traced me p.target p.next (start p s) where
  target := rfl
  next := by simp [Exchange.start, numberOf]
  begun := rfl
  flight := by simp [Exchange.start]
  probes := by simp [Exchange.start]
  queue := by
    unfold Exchange.start
    rw [List.forall₂_map_left_iff, List.forall₂_same]
    intro r hr d hd hme
    exact absurd hme (hs d (hd ▸ hr))
  replies := by simp [Exchange.start]
  inbox := by simp [Exchange.start, hp]
  endings := by simp [Exchange.start]

/-- A ping is over that was no success, or was one as it should be. -/
lemma finish (h : Traced me peer first x) {f : Prober.Flight} (hf : x.flight = some f)
    {e : Ending} (he : ∀ n size, e.result = .ok (.reply n size) →
      Credited me peer first x.probes x.replies x.endings.length n size e.last) :
    Traced me peer first (x.finish e x.prober) where
  target := h.target
  next := h.next
  begun := by
    have hb := h.begun
    simp only [hf, Option.toList_some, List.length_singleton] at hb
    simp [Exchange.finish, ← hb]
  flight := by simp [Exchange.finish]
  probes := h.probes
  queue := h.queue
  replies := h.replies
  inbox := h.inbox
  endings := by
    intro j n size last hj
    rcases getElem?_concat_cases hj with hj | ⟨rfl, rfl⟩
    · exact h.endings j n size last hj
    · exact he n size rfl

/-- The probe of a new ping has the next number. -/
lemma aloft (h : Traced me peer first x) (hf : x.flight = none) (j : Journal) :
    Traced me peer first (x.aloft j) := by
  have hend : x.endings.length = x.begun := by simpa [hf] using h.begun
  have hprobe : (⟨.ping x.begun, x.prober.target, Probe.build x.prober.next⟩ : Parcel) =
      probeOf peer first x.begun := by
    rw [h.target, h.next]
    rfl
  have hsub : x.probes ⊆ x.probes ++ [probeOf peer first x.begun] := List.subset_append_left ..
  unfold Exchange.aloft
  rw [hprobe]
  refine ⟨h.target, ?_, ?_, ?_, ?_, ?_, ?_, h.inbox, ?_⟩
  · simp only [h.next, numberOf_succ]
  · simp [hend]
  · intro f hf
    rw [← Option.some.inj hf, hend]
    exact ⟨h.next, by simp⟩
  · intro c hc
    rcases List.mem_append.mp hc with hc | hc
    · obtain ⟨i, hi, hc⟩ := h.probes c hc
      exact ⟨i, Nat.lt_succ_of_lt hi, hc⟩
    · exact ⟨x.begun, Nat.lt_succ_self _, List.mem_singleton.mp hc⟩
  · exact h.queue.imp fun _ _ hr => hr.mono hsub
  · intro c hc hme
    obtain ⟨i, hi, hprobe⟩ := h.replies c hc hme
    exact ⟨i, hi, hsub hprobe⟩
  · intro j n size last hj
    exact (h.endings j n size last hj).mono hsub fun _ hc => hc

lemma ping (hu : u.SendsWhole) (h : Traced me peer first x) (hf : x.flight = none) :
    Traced me peer first (x.ping u) := by
  obtain ⟨j, ⟨e, hx⟩ | hx | hx⟩ := ping_cases hu x
  · have hend : x.endings.length = x.begun := by simpa [hf] using h.begun
    rw [hx]
    refine ⟨h.target, ?_, ?_, by simp, ?_, h.queue, h.replies, h.inbox, ?_⟩
    · simp only [h.next, numberOf_succ]
    · simp [hend]
    · intro c hc
      obtain ⟨i, hi, hc⟩ := h.probes c hc
      exact ⟨i, Nat.lt_succ_of_lt hi, hc⟩
    · intro j n size last hj
      rcases getElem?_concat_cases hj with hj | ⟨-, he⟩
      · exact h.endings j n size last hj
      · cases he
  · rw [hx]
    exact h.aloft hf j
  · rw [hx]
    exact (h.aloft hf j).finish rfl (by simp)

lemma atResponder (h : Traced me peer first x) {r : Receipt} {o : Origin}
    (hr : Carried x.probes peer (·.source = me) o r) :
    Traced me peer first (x.atResponder r o) :=
  { h with queue := List.rel_append h.queue (.cons hr .nil) }

lemma atProber (h : Traced me peer first x) {r : Receipt} {o : Origin}
    (hr : Carried x.replies me (·.source.port = peer.port) o r) :
    Traced me peer first (x.atProber r o) :=
  { h with inbox := List.rel_append h.inbox (.cons hr .nil) }

/-- What the responder sends to the prober answers a probe of it. -/
lemma serve (hw : w.SendsWhole) (h : Traced me peer first x) {e : Event} (he : e.receipts = []) :
    Traced me peer first (x.serve w e) := by
  obtain ⟨s, hs⟩ : ∃ s, s = x.station.step w e := ⟨_, rfl⟩
  unfold Exchange.serve
  rw [← hs]
  rcases Station.step_departures hw he hs with ⟨hq, hd⟩ | ⟨r, sent, hq, hd, hsent⟩
  · have hnone := sentSince_eq (x.queueOrigins.headD .elsewhere) (hd.trans (List.append_nil _).symm)
    simp only [hnone, hq, List.map_nil, List.append_nil, Nat.sub_self, List.drop_zero]
    exact { h with queue := hq ▸ h.queue }
  · have hqueue := h.queue
    rw [hq] at hqueue
    rcases ho : x.queueOrigins with _ | ⟨o, os⟩
    · rw [ho] at hqueue
      cases hqueue
    · rw [ho] at hqueue
      obtain ⟨hr, hrest⟩ := List.forall₂_cons.mp hqueue
      have hlen : x.station.queue.length - s.queue.length = 1 := by simp [hq]
      have hsome := sentSince_eq o hd
      simp only [hlen, List.headD_cons, hsome, List.drop_one, List.tail_cons]
      have hsub : x.replies ⊆ x.replies ++ sent.map fun d => ⟨o, d.1, d.2⟩ :=
        List.subset_append_left ..
      refine { h with queue := hrest, replies := ?_, inbox := ?_, endings := ?_ }
      · intro c hc hme
        rcases List.mem_append.mp hc with hc | hc
        · exact h.replies c hc hme
        · obtain ⟨a, ha, rfl⟩ := List.mem_map.mp hc
          obtain ⟨d, rfl, rfl⟩ := hsent a ha
          have hprobe := hr d rfl hme
          obtain ⟨i, -, hi⟩ := h.probes _ hprobe
          rw [hi] at hprobe
          obtain ⟨rfl, -, hbytes⟩ := Parcel.mk.inj hi
          refine ⟨i, ?_, hprobe⟩
          rw [hbytes, replyOf, ← hme]
      · exact h.inbox.imp fun _ _ hr => hr.mono hsub
      · intro j n size last hj
        exact (h.endings j n size last hj).mono (fun _ hc => hc) hsub

/-- A datagram that the prober accepts is the reply to a probe with the number of this ping. -/
lemma credited (h : Traced me peer first x) {f : Prober.Flight} (hf : x.flight = some f)
    {o : Origin} {r : Receipt} (hr : Carried x.replies me (·.source.port = peer.port) o r)
    {p : Prober} (hp : p.target = peer) {n : UInt16} {size : Nat}
    (hx : (Prober.examine f (Prober.seen r) p).1 = some (.ok (.reply n size))) :
    Credited me peer first x.probes x.replies x.endings.length n size
      (some (Prober.seen r, o)) := by
  obtain ⟨d', hd', hport, hreply, hn, hsize⟩ := Prober.examine_reply hx
  rcases r with e | d
  · cases hd'
  · have hcut : d.cut Prober.bufferSize = d' := Except.ok.inj hd'
    subst hcut
    have hsent := hr d rfl (hp ▸ hport)
    obtain ⟨i, hi, hprobe⟩ := h.replies _ hsent rfl
    obtain ⟨rfl, -, hbytes⟩ := Parcel.mk.inj hi
    rw [hi] at hsent
    have hlen : d.bytes.length = 15 := by rw [hbytes, Probe.length_reply_build]; rfl
    -- a reply is shorter than the buffer
    have hwhole : (d.cut Prober.bufferSize).bytes = d.bytes :=
      List.take_of_length_le (by rw [hlen]; decide)
    obtain ⟨hnumber, hown⟩ := h.flight f hf
    have hsame : numberOf first i = f.number := by
      rw [hwhole, hbytes] at hreply
      exact Probe.isReply_reply_build.mp hreply
    obtain ⟨k, hk, hki⟩ := h.probes _ hprobe
    have hik : i = k := Origin.ping.inj (congrArg Parcel.origin hki)
    have hbegun := h.begun
    simp only [hf, Option.toList_some, List.length_singleton] at hbegun
    refine ⟨hn.trans hnumber, ?_, hown, i, by omega, hsame.trans hn.symm, hprobe, hsent,
      d.source, ?_⟩
    · rw [hsize, hwhole, hlen]
    · rw [replyOf, ← hbytes, ← hwhole]
      rfl

lemma receive (h : Traced me peer first x) {f : Prober.Flight} (hf : x.flight = some f) :
    Traced me peer first (x.receive f) := by
  have hinbox := h.inbox
  rcases hq : x.prober.inbox with _ | ⟨r, rest⟩
  · rw [hq] at hinbox
    rw [receive_nil hq]
    have hempty : Traced me peer first { x with prober := (x.prober.await f []).2 } :=
      { h with inbox := hinbox }
    exact hempty.finish hf (by simp [Prober.await])
  · rw [hq] at hinbox
    obtain ⟨j, b, -, result, he, hx⟩ := receive_cons (f := f) hq
    rcases ho : x.inboxOrigins with _ | ⟨o, os⟩
    · rw [ho] at hinbox
      cases hinbox
    · rw [ho] at hinbox hx
      obtain ⟨hr, hrest⟩ := List.forall₂_cons.mp hinbox
      have hpassed : Traced me peer first { x with
          prober := { x.prober with inbox := rest, journal := j, buffer := b }
          inboxOrigins := os } :=
        { h with inbox := hrest }
      rw [hx]
      rcases result with _ | result
      · exact hpassed
      · refine hpassed.finish hf fun n size hreply => ?_
        refine h.credited (p := { x.prober with inbox := rest, buffer := b }) hf hr h.target ?_
        rw [he]
        exact congrArg some hreply

lemma step (hu : u.SendsWhole) (hw : w.SendsWhole) (h : Traced me peer first x) (m : Move) :
    Traced me peer first (x.step u w me m) := by
  cases m with
  | ping =>
    rcases hf : x.flight with _ | f
    · simpa [Exchange.step, hf] using h.ping hu hf
    · simpa [Exchange.step, hf] using h
  | receive =>
    rcases hf : x.flight with _ | f
    · simpa [Exchange.step, hf] using h
    · simpa [Exchange.step, hf] using h.receive hf
  | expire =>
    rcases hf : x.flight with _ | f
    · simpa [Exchange.step, hf] using h
    · simpa [Exchange.step, hf] using h.finish hf (e := ⟨.ok (.timeout f.number), none⟩) (by simp)
  | poll => exact h.serve hw rfl
  | drain => exact h.serve hw rfl
  | bringProbe k =>
    rcases hk : x.probes[k]? with _ | c
    · simpa [Exchange.step, hk] using h
    · have hc := List.mem_of_getElem? hk
      obtain ⟨i, -, hi⟩ := h.probes c hc
      have hr : Carried x.probes peer (·.source = me) c.origin (.ok ⟨me, c.bytes⟩) := by
        intro d hd _
        rw [← Except.ok.inj hd]
        rw [hi] at hc ⊢
        exact hc
      simpa [Exchange.step, hk] using h.atResponder hr
  | bringReply k source =>
    rcases hk : x.replies[k]? with _ | c
    · simpa [Exchange.step, hk] using h
    · by_cases hg : c.dest = me ∧ source.port = x.prober.target.port
      · have hc := List.mem_of_getElem? hk
        have hr : Carried x.replies me (·.source.port = peer.port) c.origin
            (.ok ⟨source, c.bytes⟩) := by
          intro d hd _
          rw [← Except.ok.inj hd, ← hg.1]
          exact hc
        simpa [Exchange.step, hk, hg] using h.atProber hr
      · simpa [Exchange.step, hk, hg] using h
  | toResponder r =>
    rcases r with e | d
    · exact h.atResponder fun d hd => by cases hd
    · by_cases hme : d.source = me
      · simpa [Exchange.step, hme] using h
      · have hr : Carried x.probes peer (·.source = me) .elsewhere (.ok d) := by
          intro d' hd' hme'
          exact absurd (Except.ok.inj hd' ▸ hme') hme
        simpa [Exchange.step, hme] using h.atResponder hr
  | toProber r =>
    rcases r with e | d
    · exact h.atProber fun d hd => by cases hd
    · by_cases hport : d.source.port = x.prober.target.port
      · simpa [Exchange.step, hport] using h
      · have hr : Carried x.replies me (·.source.port = peer.port) .elsewhere (.ok d) := by
          intro d' hd' hport'
          rw [← Except.ok.inj hd', ← h.target] at hport'
          exact absurd hport' hport
        simpa [Exchange.step, hport] using h.atProber hr

lemma run (hu : u.SendsWhole) (hw : w.SendsWhole) (h : Traced me peer first x) (ms : List Move) :
    Traced me peer first (x.run u w me ms) := by
  induction ms generalizing x with
  | nil => exact h
  | cons m ms ih =>
    rw [run_cons]
    exact ih (h.step hu hw m)

end Traced

/-- **Credit.** However calls and arrivals follow each other: a ping that ends with a reply reports
fifteen bytes and its own number, and what it has accepted is the responder's reply to the probe of
a ping that is not later and has the same number. Until all numbers have been used, this is the
ping itself. -/
theorem credited_run {u w : Surroundings} (hu : u.SendsWhole) (hw : w.SendsWhole) {me : Endpoint}
    {p : Prober} {s : Station} (hp : p.inbox = []) (hs : ∀ d, .ok d ∈ s.queue → d.source ≠ me)
    (ms : List Move) {x : Exchange} (hx : x = (start p s).run u w me ms) {j : Nat} {n : UInt16}
    {size : Nat} {last : Option (Receipt × Origin)}
    (hj : x.endings[j]? = some ⟨.ok (.reply n size), last⟩) :
    size = 15 ∧ n = numberOf p.next j ∧ probeOf p.target p.next j ∈ x.probes ∧
      ∃ i ≤ j, i % 65536 = j % 65536 ∧ (x.begun ≤ 65536 → i = j) ∧
        probeOf p.target p.next i ∈ x.probes ∧ replyOf me p.next i ∈ x.replies ∧
          ∃ source, last = some (.ok ⟨source, (replyOf me p.next i).bytes⟩, .ping i) := by
  have htraced : Traced me p.target p.next x := hx ▸ (Traced.start hp hs).run hu hw ms
  have hcredited := htraced.endings j n size last hj
  obtain ⟨i, hi, hn, hprobe, hreply, hlast⟩ := hcredited.reply
  have hmod : i % 65536 = j % 65536 := numberOf_inj.mp (hn.trans hcredited.number)
  have hlt : j < x.begun := by
    have hb := htraced.begun
    obtain ⟨hlen, -⟩ := List.getElem?_eq_some_iff.mp hj
    omega
  exact ⟨hcredited.length, hcredited.number, hcredited.sent, i, hi, hmod, fun _ => by omega, hprobe,
    hreply, hlast⟩

/-- A prober on the loopback address. -/
def caller : Prober := { target := .v4 .loopback 7, timeout := 5 }

/-- The reply to a first ping comes in during a second, before the reply to that. -/
def belated : List Move :=
  [.ping, .bringProbe 0, .poll, .drain, .drain, .expire, .ping, .bringReply 0 (.v4 .loopback 7),
    .receive, .bringProbe 1, .poll, .drain, .bringReply 1 (.v4 .loopback 7), .receive]

/-- The second ping passes over the reply to the first. -/
theorem credited_run_belated :
    let x := (start caller {}).run {} {} (.v4 .loopback 9) belated
    ({} : Surroundings).SendsWhole ∧ x.begun = 2 ∧
      x.endings.map Ending.result = [.ok (.timeout 0), .ok (.reply 1 15)] ∧
      (∃ source, (x.endings[1]?).bind Ending.last =
        some (.ok ⟨source, (replyOf (.v4 .loopback 9) 0 1).bytes⟩, .ping 1)) := by
  intro x
  have hw : ({} : Surroundings).SendsWhole := fun _ _ _ _ h => (Except.ok.inj h).symm
  have hb : x.begun = 2 := by decide +kernel
  have hj : x.endings[1]? = some ⟨.ok (.reply 1 15), some (.ok ⟨.v4 .loopback 7,
    (replyOf (.v4 .loopback 9) 0 1).bytes⟩, .ping 1)⟩ := by decide +kernel
  obtain ⟨-, -, -, i, -, -, hi, -, -, source, hlast⟩ :=
    credited_run (p := caller) hw hw rfl (by simp) belated rfl hj
  have hown : i = 1 := hi (by rw [hb]; decide)
  rw [hown] at hlast
  refine ⟨hw, hb, by decide +kernel, source, ?_⟩
  rw [hj]
  exact hlast

end PortEcho.Exchange
