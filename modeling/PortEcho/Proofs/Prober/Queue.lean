import PortEcho.Proofs.Prober.Foreign

/-!
What a ping does with its queue.

A ping takes datagrams from the front of its queue, up to the first that fits its probe and no
further. There is a notice for each that it passes over, in their order, and the rest stays queued
for the next ping. The buffer is written to each time and cleared never, but what it held before
does not show.
-/

namespace PortEcho.Prober

/-- As much of the datagram as the buffer takes is a beginning of the probe numbered `n`, not an
empty one, and it comes from the target's port. -/
def Fits (target : Endpoint) (n : UInt16) (d : Datagram) : Prop :=
  d.source.port = target.port ∧ d.bytes.take bufferSize ≠ [] ∧
    d.bytes.take bufferSize <+: Probe.build n

instance (target : Endpoint) (n : UInt16) (d : Datagram) : Decidable (Fits target n d) :=
  inferInstanceAs (Decidable (_ ∧ _ ∧ _))

/-- What is told of a datagram that is passed over. -/
def passing (d : Datagram) : Notice := .ignored (min d.bytes.length bufferSize) d.source

/-- What is told of a reply, if it comes from another host than the target's. -/
def welcome (target : Endpoint) (d : Datagram) : List Notice :=
  if d.source.host = target.host then [] else [.answeredFrom target d.source]

/-- What the records of both say. -/
lemma message_told (target : Endpoint) (d : Datagram) :
    (passing d).message = "Ignoring " ++ toString (min d.bytes.length bufferSize) ++
        " unexpected bytes from " ++ d.source.text ∧
      (welcome target d).map Notice.message = if d.source.host = target.host then [] else
        ["Reply to " ++ target.text ++ " came from " ++ d.source.text] := by
  refine ⟨rfl, ?_⟩
  rw [welcome, apply_ite (List.map Notice.message)]
  rfl

section verdict

variable {target : Endpoint} {n : UInt16} {d : Datagram} {ds : List Datagram}

lemma answers_cut_iff_fits : answers target ⟨n⟩ (d.cut bufferSize) = true ↔ Fits target n d := by
  unfold answers Fits
  rw [Bool.and_eq_true, decide_eq_true_iff, Probe.isReply_iff]
  rfl

lemma length_bytes_cut (d : Datagram) :
    (d.cut bufferSize).bytes.length = min d.bytes.length bufferSize := by
  rw [Datagram.cut, List.length_take, Nat.min_comm]

lemma verdict_of_fits (h : Fits target n d) :
    verdict target ⟨n⟩ (seen (.ok d)) =
      some (.ok (.reply n (min d.bytes.length bufferSize))) := by
  change verdict target ⟨n⟩ (.ok (d.cut bufferSize)) = _
  rw [verdict_ok, if_pos (answers_cut_iff_fits.mpr h), length_bytes_cut]

lemma verdict_of_unfit (h : ¬ Fits target n d) : verdict target ⟨n⟩ (seen (.ok d)) = none := by
  change verdict target ⟨n⟩ (.ok (d.cut bufferSize)) = _
  rw [verdict_ok, if_neg (mt answers_cut_iff_fits.mp h)]

lemma verdicts_of_unfit (h : ∀ d ∈ ds, ¬ Fits target n d) :
    ∀ x ∈ ds.map Except.ok, verdict target ⟨n⟩ (seen x) = none := by
  intro x hx
  obtain ⟨d, hd, rfl⟩ := List.mem_map.mp hx
  exact verdict_of_unfit (h d hd)

lemma trace_of_fits (h : Fits target n d) : trace target ⟨n⟩ (seen (.ok d)) =
    (welcome target d).map .noted ++ [.received (.ok (d.cut bufferSize))] := by
  change trace target ⟨n⟩ (.ok (d.cut bufferSize)) = _
  have hsource : (d.cut bufferSize).source = d.source := rfl
  rw [trace_ok, if_pos (answers_cut_iff_fits.mpr h), hsource, welcome]
  by_cases hh : d.source.host = target.host
  · rw [if_pos hh, if_pos hh]
    rfl
  · rw [if_neg hh, if_neg hh]
    rfl

/-- The look at the reply shows the reply as it was received, and who sent it. -/
lemma views_reply (target : Endpoint) (d : Datagram) :
    Journal.notices ((welcome target d).map .noted ++ [.received (.ok (d.cut bufferSize))]) =
        welcome target d ∧
      Journal.datagrams ((welcome target d).map .noted ++ [.received (.ok (d.cut bufferSize))]) =
        [d.cut bufferSize] := by
  unfold welcome
  by_cases hh : d.source.host = target.host
  · rw [if_pos hh]
    exact ⟨rfl, rfl⟩
  · rw [if_neg hh]
    exact ⟨rfl, rfl⟩

lemma trace_of_unfit (h : ¬ Fits target n d) : trace target ⟨n⟩ (seen (.ok d)) =
    [.noted (passing d), .received (.ok (d.cut bufferSize))] := by
  change trace target ⟨n⟩ (.ok (d.cut bufferSize)) = _
  rw [trace_ok, if_neg (mt answers_cut_iff_fits.mp h), length_bytes_cut]
  rfl

/-- Datagrams that do not fit are received and passed over, one after the other. -/
lemma traces_of_unfit (h : ∀ d ∈ ds, ¬ Fits target n d) :
    Journal.notices (traces target ⟨n⟩ (ds.map .ok)) = ds.map passing ∧
      Journal.datagrams (traces target ⟨n⟩ (ds.map .ok)) = ds.map (Datagram.cut bufferSize) := by
  induction ds with
  | nil => exact ⟨rfl, rfl⟩
  | cons d ds ih =>
    obtain ⟨hd, hds⟩ := List.forall_mem_cons.mp h
    obtain ⟨hnotices, hdatagrams⟩ := ih hds
    rw [List.map_cons, traces_cons, trace_of_unfit hd]
    constructor
    · rw [Journal.notices, Journal.view_append]
      exact congrArg (passing d :: ·) hnotices
    · rw [Journal.datagrams_append]
      exact congrArg (d.cut bufferSize :: ·) hdatagrams

end verdict

/-- What a ping of `p` leaves: one call has handed over its probe, these datagrams were received,
and this was told. -/
structure Leaves (u : Surroundings) (p q : Prober) (taken : List Datagram)
    (notices : List Notice) : Prop where
  target : q.target = p.target
  timeout : q.timeout = p.timeout
  next : q.next = p.next + 1
  sendings : q.journal.sendings = p.journal.sendings ++
    [(p.target, Probe.build p.next, u.send p.journal p.target (Probe.build p.next))]
  datagrams : q.journal.datagrams = p.journal.datagrams ++ taken.map (Datagram.cut bufferSize)
  notices : q.journal.notices = p.journal.notices ++ notices

/-- What is told once the probe is out. -/
def departing (p : Prober) : Notice := .probeSent p.next Probe.length p.target

section ping

variable {u : Surroundings} {p q : Prober} {n : Nat} {ds passed rest : List Datagram} {d : Datagram}

lemma leaves_of_looks (looks : Journal) {taken : List Datagram} {notices : List Notice}
    (hq : q = (p.ping u).2) (htimeout : q.timeout = p.timeout)
    (hjournal : q.journal = looks ++ (p.launched u n).journal)
    (htaken : Journal.datagrams looks = taken.map (Datagram.cut bufferSize))
    (hnotices : Journal.notices looks = notices) :
    Leaves u p q taken (p.departing :: notices) := by
  obtain ⟨_, hspec⟩ := ping_spec u p
  subst hq
  refine ⟨hspec.target, htimeout, hspec.next, sendings_ping u p, ?_, ?_⟩
  · rw [hjournal, Journal.datagrams_append, htaken]
    simp [launched, dispatched, Act.datagram?]
  · rw [hjournal, Journal.notices, Journal.view_append]
    change _ ++ Journal.notices looks = _
    rw [hnotices]
    simp [launched, dispatched, departing, Journal.notices, Act.notice?]

/-- A ping whose probe is refused takes nothing. -/
lemma leaves_of_refused {e : Fault}
    (he : u.send p.journal p.target (Probe.build p.next) = .error e) :
    ∃ q, p.ping u = (.error (.fault e), q) ∧ q.inbox = p.inbox ∧ Leaves u p q [] [] := by
  refine ⟨_, ping_of_refused he, rfl, rfl, rfl, rfl, ?_, ?_, ?_⟩
  · rw [he]
    exact Journal.view_cons ..
  · simp [Act.datagram?]
  · simp [Act.notice?]

/-- A ping whose deadline the clock cannot tell takes nothing either, but its probe is out. -/
lemma leaves_of_untold (hn : u.send p.journal p.target (Probe.build p.next) = .ok n)
    (hlate : ¬ u.Tells p.journal p.timeout) :
    ∃ q, p.ping u = (.error .overflow, q) ∧ q.inbox = p.inbox ∧
      Leaves u p q [] [p.departing] := by
  have hp := ping_of_untold hn hlate
  exact ⟨_, hp, rfl, leaves_of_looks [] (by rw [hp]) rfl rfl rfl rfl⟩

/-- The first datagram that fits ends the ping. -/
lemma ping_of_fits (ht : p.timeout ≠ 0) (htold : u.Tells p.journal p.timeout)
    (hn : u.send p.journal p.target (Probe.build p.next) = .ok n)
    (hqueue : p.queued u = (passed ++ d :: rest).map .ok)
    (hpassed : ∀ x ∈ passed, ¬ Fits p.target p.next x) (hd : Fits p.target p.next d) :
    ∃ q, p.ping u = (.ok (.reply p.next (min d.bytes.length bufferSize)), q) ∧
      q.inbox = rest.map .ok ∧
      Leaves u p q (passed ++ [d])
        (p.departing :: (passed.map passing ++ welcome p.target d)) := by
  have hp := ping_of_sent hn htold
  rw [if_neg ht, hqueue, List.map_append, List.map_cons,
    await_of_verdict _ (p.launched u n) (verdicts_of_unfit hpassed) (verdict_of_fits hd)] at hp
  obtain ⟨hnotices, hdatagrams⟩ := traces_of_unfit hpassed
  obtain ⟨hwelcome, hreply⟩ := views_reply p.target d
  have hlast : traces p.target ⟨p.next⟩ (passed.map .ok ++ [.ok d]) =
      (welcome p.target d).map .noted ++ [.received (.ok (d.cut bufferSize))] ++
        traces p.target ⟨p.next⟩ (passed.map .ok) := by
    rw [← trace_of_fits hd]
    simp [traces]
  refine ⟨_, hp, rfl, leaves_of_looks (traces p.target ⟨p.next⟩ (passed.map .ok ++ [.ok d]))
    (by rw [hp]) rfl rfl ?_ ?_⟩
  · rw [hlast, Journal.datagrams_append, hdatagrams, List.map_append, hreply]
    rfl
  · rw [hlast, Journal.notices, Journal.view_append]
    exact congrArg₂ _ hnotices hwelcome

/-- Where nothing fits, the ping uses up the queue. -/
lemma ping_of_unfit (ht : p.timeout ≠ 0) (htold : u.Tells p.journal p.timeout)
    (hn : u.send p.journal p.target (Probe.build p.next) = .ok n)
    (hqueue : p.queued u = ds.map .ok) (hds : ∀ d ∈ ds, ¬ Fits p.target p.next d) :
    ∃ q, p.ping u = (.ok (.timeout p.next), q) ∧ q.inbox = [] ∧
      Leaves u p q ds (p.departing :: ds.map passing) := by
  have hp := ping_of_sent hn htold
  rw [if_neg ht, hqueue, await_of_none (p.launched u n) (verdicts_of_unfit hds)] at hp
  obtain ⟨hnotices, hdatagrams⟩ := traces_of_unfit hds
  refine ⟨_, hp, rfl, leaves_of_looks
    (.received (.error .wouldBlock) :: traces p.target ⟨p.next⟩ (ds.map .ok))
    (by rw [hp]) rfl rfl ?_ ?_⟩
  · rw [Journal.datagrams_cons, hdatagrams]
    exact List.append_nil _
  · rw [Journal.notices_cons, hnotices]
    exact List.append_nil _

end ping

/-- What waits for the ping of `mingled`: the probe itself from another port, an empty datagram, the
probe before this one, which is overlong, a reply from another host than the target's, and one
more. -/
def mingling : List Datagram :=
  [⟨.v4 .loopback 8, Probe.build 65535⟩, ⟨.v4 .loopback 7, []⟩,
    ⟨.v4 .loopback 7, Probe.build 65534 ++ [1, 2]⟩,
    ⟨.v4 .loopback 7, Probe.reply (Probe.build 65535)⟩, ⟨.v4 .loopback 7, [255]⟩]

/-- A prober about to use its last number, with an earlier probe in its buffer. -/
def mingled : Prober where
  target := .v4 .wildcard 7
  timeout := 1000
  next := 65535
  inbox := mingling.map .ok
  buffer := (Buffer.blank bufferSize).fill (Probe.build 65534)

/-- A prober with the longest timeout that there is, and a reply in its queue. -/
def patient : Prober where
  target := .v4 .loopback 7
  timeout := 18446744073709551615999
  inbox := [.ok ⟨.v4 .loopback 7, Probe.reply (Probe.build 0)⟩]

end PortEcho.Prober
