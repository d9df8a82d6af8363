import PortEcho.Proofs.Probe
import PortEcho.Proofs.Prober.Ping

/-!
Which datagrams count as replies.

A ping looks at no more of a datagram than a probe is long. Of the datagrams that are no longer it
accepts just the non-empty parts of the probe's beginning. What a longer one has after the length
of a probe is not seen, so a datagram that goes on after a whole probe counts as a reply as well,
and is reported with the length of the probe.
-/

namespace PortEcho

namespace Probe

/-- The bytes begin with a whole probe and go on after it. -/
def Overruns (probe bytes : Bytes) : Prop := probe <+: bytes ∧ probe.length < bytes.length

/-- Cut to the length of the probe, a reply is still one, and so is what goes on after the probe. -/
lemma isReply_take {probe : Bytes} (hp : probe ≠ []) (bytes : Bytes) :
    isReply probe (bytes.take probe.length) = true ↔
      isReply probe bytes = true ∨ Overruns probe bytes := by
  rw [isReply_iff, isReply_iff]
  rcases Nat.lt_or_ge probe.length bytes.length with hlt | hle
  · have hlen : (bytes.take probe.length).length = probe.length := by
      rw [List.length_take]
      omega
    have hlong : ¬ bytes <+: probe := fun h => by
      have := h.length_le
      omega
    constructor
    · rintro ⟨-, h⟩
      have heq : bytes.take probe.length = probe := h.eq_of_length hlen
      exact .inr ⟨heq ▸ List.take_prefix .., hlt⟩
    · rintro (⟨-, h⟩ | ⟨h, -⟩)
      · exact absurd h hlong
      · rw [← List.prefix_iff_eq_take.mp h]
        exact ⟨hp, List.prefix_rfl⟩
  · rw [List.take_of_length_le hle]
    constructor
    · exact .inl
    · rintro (h | ⟨-, hlt⟩)
      · exact h
      · omega

end Probe

namespace Prober

/-- The datagram, as it was sent, counts as a reply to the probe numbered `n`. -/
def Counts (target : Endpoint) (n : UInt16) (d : Datagram) : Prop :=
  d.source.port = target.port ∧
    (Probe.isReply (Probe.build n) d.bytes = true ∨ Probe.Overruns (Probe.build n) d.bytes)

lemma answers_cut_iff {target : Endpoint} {n : UInt16} {d : Datagram} :
    answers target ⟨n⟩ (d.cut bufferSize) = true ↔ Counts target n d := by
  have hne : Probe.build n ≠ [] := List.cons_ne_nil _ _
  have hcut : (d.cut bufferSize).bytes = d.bytes.take (Probe.build n).length := by
    rw [Probe.length_build]
    rfl
  unfold answers Counts
  rw [Bool.and_eq_true, decide_eq_true_iff, hcut]
  exact and_congr_right' (Probe.isReply_take hne d.bytes)

/-- A datagram counts as a reply just if it ends the ping with one. -/
lemma verdict_eq_none_iff {target : Endpoint} {n : UInt16} {d : Datagram} :
    verdict target ⟨n⟩ (seen (.ok d)) = none ↔ ¬ Counts target n d := by
  rw [← answers_cut_iff]
  change (if answers target ⟨n⟩ (d.cut bufferSize) then _ else none) = none ↔ _
  by_cases ha : answers target ⟨n⟩ (d.cut bufferSize) <;> simp [ha]

@[simp] lemma length_cut (d : Datagram) :
    (d.cut bufferSize).bytes.length = min d.bytes.length Probe.length := by
  rw [Datagram.cut, List.length_take, Nat.min_comm]
  rfl

lemma verdict_of_counts {target : Endpoint} {n : UInt16} {d : Datagram} (h : Counts target n d) :
    verdict target ⟨n⟩ (seen (.ok d)) =
      some (.ok (.reply n (min d.bytes.length Probe.length))) := by
  change verdict target ⟨n⟩ (.ok (d.cut bufferSize)) = _
  rw [verdict_ok, if_pos (answers_cut_iff.mpr h), length_cut]

lemma Counts.whole_iff {target : Endpoint} {n : UInt16} {d : Datagram} (h : Counts target n d) :
    Probe.isReply (Probe.build n) d.bytes = true ↔ d.bytes.length ≤ Probe.length := by
  constructor
  · intro hr
    have hle := (Probe.isReply_iff.mp hr).2.length_le
    rwa [Probe.length_build] at hle
  · intro hle
    refine h.2.resolve_right fun hover => ?_
    have hlt := hover.2
    rw [Probe.length_build] at hlt
    omega

/-- The first datagram that counts as a reply ends the ping. -/
lemma ping_of_counts {u : Surroundings} {p : Prober} {m : Nat} {passed rest : List Receipt}
    {d : Datagram} (ht : p.timeout ≠ 0) (htells : u.Tells p.journal p.timeout)
    (hs : u.send p.journal p.target (Probe.build p.next) = .ok m)
    (hqueue : p.queued u = passed ++ .ok d :: rest)
    (hpassed : ∀ x ∈ passed, verdict p.target ⟨p.next⟩ (seen x) = none)
    (hd : Counts p.target p.next d) :
    ∃ j b, p.ping u = (.ok (.reply p.next (min d.bytes.length Probe.length)),
      { p with next := p.next + 1, inbox := rest, journal := j, buffer := b }) := by
  rw [ping_of_sent hs htells, if_neg ht, hqueue,
    await_of_verdict rest (p.launched u m) hpassed (verdict_of_counts hd)]
  exact ⟨_, _, rfl⟩

/-- **What counts as a reply.** A ping that ends with a reply ends at the first datagram in the
queue that counts as one. It reports as many of its bytes as a probe has, so the datagram is the
part of the probe's beginning that is reported just if it is no longer than a probe. -/
theorem ping_reply {u : Surroundings} {p q : Prober} {n : UInt16} {size : Nat}
    (h : p.ping u = (.ok (.reply n size), q)) :
    n = p.next ∧ ∃ passed d, p.queued u = passed ++ .ok d :: q.inbox ∧
      (∀ x, .ok x ∈ passed → ¬ Counts p.target n x) ∧ Counts p.target n d ∧
      size = min d.bytes.length Probe.length ∧
      (Probe.isReply (Probe.build n) d.bytes = true ∧ size = d.bytes.length ↔
        d.bytes.length ≤ Probe.length) := by
  have hway : Way u p (.ok (.reply n size)) q := by
    have hall := ping_way u p
    rwa [h] at hall
  -- only a receipt ends a ping with a reply
  cases hway with
  | ended m _ _ passed r rest _ hqueue hpassed hr =>
    obtain ⟨d', hd', hanswers, hn, hsize⟩ := verdict_reply hr
    obtain ⟨d, rfl, rfl⟩ := seen_eq_ok hd'
    subst hn
    have hcounts : Counts p.target p.next d := answers_cut_iff.mp hanswers
    have hmin : size = min d.bytes.length Probe.length := by rw [hsize, length_cut]
    refine ⟨rfl, passed, d, hqueue, fun x hx => verdict_eq_none_iff.mp (hpassed _ hx), hcounts,
      hmin, ?_⟩
    rw [hcounts.whole_iff]
    omega

/-- Three datagrams wait for the first ping: one from another port, one that goes on after a whole
probe, and the reply of a responder. -/
def crowded : Prober where
  target := .v4 .loopback 7
  timeout := 5000
  inbox := [.ok ⟨.v4 .loopback 8, Probe.reply (Probe.build 0)⟩,
    .ok ⟨.v4 .loopback 7, Probe.build 0 ++ [0]⟩,
    .ok ⟨.v4 .loopback 7, Probe.reply (Probe.build 0)⟩]

/-- The second datagram is taken for the reply. -/
lemma ping_crowded : ∃ j b, crowded.ping {} = (.ok (.reply 0 258), { crowded with
    next := 1
    inbox := [.ok ⟨.v4 .loopback 7, Probe.reply (Probe.build 0)⟩]
    journal := j
    buffer := b }) := by
  have hforeign : ¬ Counts (.v4 .loopback 7) 0 ⟨.v4 .loopback 8, Probe.reply (Probe.build 0)⟩ :=
    fun h => absurd h.1 (by decide)
  have hover : Counts (.v4 .loopback 7) 0 ⟨.v4 .loopback 7, Probe.build 0 ++ [0]⟩ :=
    ⟨rfl, .inr ⟨List.prefix_append .., by simp⟩⟩
  obtain ⟨j, b, hj⟩ := ping_of_counts (u := {}) (p := crowded) (by decide) (by decide) rfl rfl
    (List.forall_mem_singleton.mpr (verdict_eq_none_iff.mpr hforeign)) hover
  refine ⟨j, b, hj.trans ?_⟩
  simp [Probe.length, Probe.fillerLength, crowded]

/-- The overlong datagram is taken for the reply, and the reply itself stays queued. -/
theorem ping_reply_crowded : ∃ q, crowded.ping {} = (.ok (.reply 0 258), q) ∧
    ∃ passed d, crowded.queued {} = passed ++ .ok d :: q.inbox ∧
      (∀ x, .ok x ∈ passed → ¬ Counts crowded.target 0 x) ∧ Counts crowded.target 0 d ∧
      258 = min d.bytes.length Probe.length ∧
      (Probe.isReply (Probe.build 0) d.bytes = true ∧ 258 = d.bytes.length ↔
        d.bytes.length ≤ Probe.length) := by
  obtain ⟨j, b, hj⟩ := ping_crowded
  exact ⟨_, hj, (ping_reply hj).2⟩

/-- A ping may end with a reply at a datagram that is no part of the probe's beginning. -/
theorem not_prefix_of_reply :
    ¬ ∀ (u : Surroundings) (p q : Prober) (n : UInt16) (size : Nat),
      p.ping u = (.ok (.reply n size), q) →
      ∃ passed d, p.queued u = passed ++ .ok d :: q.inbox ∧ d.bytes ≠ [] ∧
        d.bytes <+: Probe.build n ∧ size = d.bytes.length := by
  intro h
  obtain ⟨j, b, hj⟩ := ping_crowded
  obtain ⟨passed, d, hqueue, -, hpre, -⟩ := h _ _ _ _ _ hj
  have hlast : passed ++ [.ok d] = [.ok ⟨.v4 .loopback 8, Probe.reply (Probe.build 0)⟩,
      .ok ⟨.v4 .loopback 7, Probe.build 0 ++ [0]⟩] := by
    have hall : (passed ++ [.ok d]) ++ [.ok ⟨.v4 .loopback 7, Probe.reply (Probe.build 0)⟩] =
        [.ok ⟨.v4 .loopback 8, Probe.reply (Probe.build 0)⟩,
          .ok ⟨.v4 .loopback 7, Probe.build 0 ++ [0]⟩] ++
          [.ok ⟨.v4 .loopback 7, Probe.reply (Probe.build 0)⟩] := by
      rw [List.append_assoc]
      exact hqueue.symm
    exact List.append_cancel_right hall
  have hd : d = ⟨.v4 .loopback 7, Probe.build 0 ++ [0]⟩ := by
    have hend := congrArg List.getLast? hlast
    simpa using hend
  have hle := hpre.length_le
  rw [hd, List.length_append] at hle
  simp only [Probe.length_build, List.length_singleton] at hle
  omega

end Prober

end PortEcho
