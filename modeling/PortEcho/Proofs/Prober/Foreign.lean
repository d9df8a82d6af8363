import PortEcho.Proofs.Prober.Unrolling

/-!
Foreign traffic.

A prober hears faults, and what comes from the target's port. Whatever else is queued, and from
which hosts the datagrams come, a ping ends as it would if only that were queued that it hears, and
what it leaves queued sounds the same. So pings of two probers that hear the same go the same way,
one after the other.
-/

namespace PortEcho

/-- What was handed over to be sent, and the answer. -/
def Act.sending? : Act → Option (Endpoint × Bytes × Except Fault Nat)
  | .sent dest bytes given => some (dest, bytes, given)
  | _ => none

/-- All calls that handed bytes over to be sent. -/
def Journal.sendings (j : Journal) : List (Endpoint × Bytes × Except Fault Nat) :=
  j.view Act.sending?

namespace Prober

/-- What a prober of `target` hears of a receipt: nothing of a datagram from another port, and
nothing of the host that any other datagram comes from. -/
def heard? (target : Endpoint) : Receipt → Option Receipt
  | .error e => some (.error e)
  | .ok d => if d.source.port = target.port then some (.ok { d with source := target }) else none

lemma heard?_ok (target : Endpoint) (d : Datagram) : heard? target (.ok d) =
    if d.source.port = target.port then some (.ok { d with source := target }) else none := rfl

def heard (target : Endpoint) (rs : List Receipt) : List Receipt := rs.filterMap (heard? target)

lemma heard_append (target : Endpoint) (rs xs : List Receipt) :
    heard target (rs ++ xs) = heard target rs ++ heard target xs := List.filterMap_append

/-- Nothing of a datagram from another port is heard, wherever in the queue it is put. -/
theorem heard_insert {target : Endpoint} {d : Datagram} (h : d.source.port ≠ target.port)
    (rs xs : List Receipt) : heard target (rs ++ .ok d :: xs) = heard target (rs ++ xs) := by
  have hd : heard? target (.ok d) = none := by rw [heard?_ok, if_neg h]
  rw [heard_append, heard_append]
  exact congrArg _ (List.filterMap_cons_none hd)

/-- Nothing of the host is heard that a datagram comes from. -/
theorem heard_rehost {target : Endpoint} {d e : Datagram} (hport : d.source.port = e.source.port)
    (hbytes : d.bytes = e.bytes) (rs xs : List Receipt) :
    heard target (rs ++ .ok d :: xs) = heard target (rs ++ .ok e :: xs) := by
  have hde : heard? target (.ok d) = heard? target (.ok e) := by
    rw [heard?_ok, heard?_ok, hport, hbytes]
  unfold heard
  rw [List.filterMap_append, List.filterMap_append, List.filterMap_cons, List.filterMap_cons, hde]

/-- The probers differ at most in foreign traffic. -/
structure Concord (p q : Prober) : Prop where
  target : p.target = q.target
  timeout : p.timeout = q.timeout
  next : p.next = q.next
  inbox : heard p.target p.inbox = heard q.target q.inbox
  sendings : p.journal.sendings = q.journal.sendings

/-- The next pings of the probers get the same answer for their probes, have deadlines that the
clock can tell or cannot, both of them, and let the same in, apart from foreign traffic. -/
structure Matched (u v : Surroundings) (p q : Prober) : Prop where
  send : u.send p.journal p.target (Probe.build p.next) =
    v.send q.journal q.target (Probe.build q.next)
  deadline : u.Tells p.journal p.timeout ↔ v.Tells q.journal q.timeout
  arrivals : heard p.target (u.arrivals (p.launch u).2.journal) =
    heard q.target (v.arrivals (q.launch v).2.journal)

section verdict

variable {target : Endpoint} {f : Flight}

/-- Only what is heard can end a ping. -/
lemma verdict_of_unheard {r : Receipt} (h : heard? target r = none) :
    verdict target f (seen r) = none := by
  rcases r with e | d
  · cases h
  · have hport : d.source.port ≠ target.port := by
      intro hport
      rw [heard?_ok, if_pos hport] at h
      cases h
    have hanswers : answers target f (d.cut bufferSize) = false := by
      unfold answers
      rw [show (d.cut bufferSize).source.port = d.source.port from rfl, decide_eq_false hport,
        Bool.false_and]
    change verdict target f (.ok (d.cut bufferSize)) = none
    rw [verdict_ok, hanswers]
    rfl

/-- How it ends the ping is heard as well. -/
lemma verdict_of_heard {r r' : Receipt} (h : heard? target r = some r') :
    verdict target f (seen r') = verdict target f (seen r) := by
  rcases r with e | d
  · rw [Option.some.inj h]
  · rw [heard?_ok] at h
    by_cases hport : d.source.port = target.port
    · rw [if_pos hport] at h
      obtain rfl := Option.some.inj h
      have hanswers : answers target f (Datagram.cut bufferSize { d with source := target }) =
          answers target f (d.cut bufferSize) := by
        unfold answers Datagram.cut
        rw [hport]
      change verdict target f (.ok _) = verdict target f (.ok _)
      rw [verdict_ok, verdict_ok, hanswers]
      rfl
    · rw [if_neg hport] at h
      cases h

lemma verdict_heard {rs : List Receipt} (h : ∀ x ∈ rs, verdict target f (seen x) = none) :
    ∀ x ∈ heard target rs, verdict target f (seen x) = none := by
  intro x hx
  obtain ⟨r, hr, hrx⟩ := List.mem_filterMap.mp hx
  rw [verdict_of_heard hrx]
  exact h r hr

end verdict

/-- A wait may as well be given only what is heard, by whichever prober of the target. -/
lemma await_heard {p q : Prober} (h : q.target = p.target) (f : Flight) (rs : List Receipt) :
    (q.await f (heard p.target rs)).1 = (p.await f rs).1 ∧
      (q.await f (heard p.target rs)).2.inbox = heard p.target (p.await f rs).2.inbox := by
  rcases verdict_cases p.target f rs with hnone | ⟨passed, r, rest, result, rfl, hpassed, hr⟩
  · have hnone' : ∀ x ∈ heard p.target rs, verdict q.target f (seen x) = none := by
      rw [h]
      exact verdict_heard hnone
    rw [await_of_none p hnone, await_of_none q hnone']
    exact ⟨rfl, rfl⟩
  · -- what ends the ping is heard, or it could not
    obtain ⟨r', hheard⟩ : ∃ r', heard? p.target r = some r' := by
      rcases hr' : heard? p.target r with _ | r'
      · rw [verdict_of_unheard hr'] at hr
        cases hr
      · exact ⟨r', rfl⟩
    have hsplit : heard p.target (passed ++ r :: rest) =
        heard p.target passed ++ r' :: heard p.target rest := by
      rw [heard_append]
      exact congrArg _ (List.filterMap_cons_some hheard)
    have hpassed' : ∀ x ∈ heard p.target passed, verdict q.target f (seen x) = none := by
      rw [h]
      exact verdict_heard hpassed
    have hr' : verdict q.target f (seen r') = some result := by
      rw [h, verdict_of_heard hheard, hr]
    rw [hsplit, await_of_verdict rest p hpassed hr, await_of_verdict _ q hpassed' hr']
    exact ⟨rfl, rfl⟩

/-- A ping adds one call that hands over its probe. -/
lemma sendings_ping (u : Surroundings) (p : Prober) :
    (p.ping u).2.journal.sendings = p.journal.sendings ++
      [(p.target, Probe.build p.next, u.send p.journal p.target (Probe.build p.next))] := by
  have hlook : ∀ a : Act, a.isLook → a.sending? = none := by
    intro a ha
    cases a with
    | received | noted => rfl
    | _ => cases ha
  exact view_ping hlook u p

namespace Concord

variable {u v : Surroundings} {p q : Prober}

/-- What is queued for the next pings sounds the same. -/
lemma queued (h : Concord p q) (hm : Matched u v p q) :
    heard p.target (p.queued u) = heard q.target (q.queued v) := by
  unfold Prober.queued
  rw [heard_append, heard_append, h.inbox, hm.arrivals]

/-- The next pings end in the same way, and what they leave queued sounds the same. -/
lemma result (h : Concord p q) (hm : Matched u v p q) :
    (p.ping u).1 = (q.ping v).1 ∧
      heard p.target (p.ping u).2.inbox = heard q.target (q.ping v).2.inbox := by
  have hqueue := h.queued hm
  have hsend := hm.send
  rcases ping_cases u p with ⟨e, he, hp⟩ | ⟨n, hn, hlate, hp⟩ | ⟨n, hn, htold, hp⟩
  · rw [hp, ping_of_refused (hsend.symm.trans he)]
    exact ⟨rfl, h.inbox⟩
  · rw [hp, ping_of_untold (hsend.symm.trans hn) (mt hm.deadline.mpr hlate)]
    exact ⟨rfl, h.inbox⟩
  · rw [hp, ping_of_sent (hsend.symm.trans hn) (hm.deadline.mp htold), ← h.timeout, ← h.next]
    by_cases ht : p.timeout = 0
    · rw [if_pos ht, if_pos ht]
      exact ⟨rfl, hqueue⟩
    · rw [if_neg ht, if_neg ht]
      -- both wait for what is heard, and that is the same
      have htarget : (p.launched u n).target = (q.launched v n).target := h.target
      obtain ⟨hres, hinbox⟩ := await_heard (p := p.launched u n) rfl ⟨p.next⟩ (p.queued u)
      obtain ⟨hres', hinbox'⟩ := await_heard htarget ⟨p.next⟩ (q.queued v)
      have hsame : heard (p.launched u n).target (p.queued u) =
        heard (q.launched v n).target (q.queued v) := hqueue
      rw [hsame] at hres hinbox
      exact ⟨hres.symm.trans hres', hinbox.symm.trans hinbox'⟩

/-- Probers that hear the same stay in concord. -/
lemma ping (h : Concord p q) (hm : Matched u v p q) : Concord (p.ping u).2 (q.ping v).2 := by
  obtain ⟨looks, hp⟩ := ping_spec u p
  obtain ⟨looks', hq⟩ := ping_spec v q
  refine ⟨?_, ?_, ?_, ?_, ?_⟩
  · rw [hp.target, hq.target, h.target]
  · rw [hp.timeout, hq.timeout, h.timeout]
  · rw [hp.next, hq.next, h.next]
  · rw [hp.target, hq.target]
    exact (h.result hm).2
  · rw [sendings_ping, sendings_ping, hm.send, h.target, h.next, h.sendings]

end Concord

/-- **Foreign traffic has no influence.** Probers in concord whose pings are matched, one by one,
get the same results, hand over the same probes and stay in concord. -/
theorem pings_of_matched {u v : Surroundings} {p q : Prober} {n : Nat} (h : Concord p q)
    (hm : ∀ i < n, Matched u v (pings u p i).2 (pings v q i).2) :
    (pings u p n).1 = (pings v q n).1 ∧ Concord (pings u p n).2 (pings v q n).2 := by
  induction n with
  | zero => exact ⟨rfl, h⟩
  | succ n ih =>
    obtain ⟨hresults, hconcord⟩ := ih fun i hi => hm i (Nat.lt_succ_of_lt hi)
    have hlast := hm n (Nat.lt_succ_self n)
    refine ⟨?_, hconcord.ping hlast⟩
    change (pings u p n).1 ++ [((pings u p n).2.ping u).1] =
      (pings v q n).1 ++ [((pings v q n).2.ping v).1]
    rw [hresults, (hconcord.result hlast).1]

/-- Probes with an even number are answered from `source`. -/
def evenAnswered (source : Endpoint) : Surroundings where
  arrivals j :=
    match j.head? with
    | some (.noted (.probeSent n _ _)) =>
      if n.toNat % 2 = 0 then [.ok ⟨source, Probe.reply (Probe.build n)⟩] else []
    | _ => []

/-- The same, but before and after what comes in, another port sends a copy of the reply. -/
def forged (source : Endpoint) : Surroundings where
  arrivals j :=
    match j.head? with
    | some (.noted (.probeSent n _ _)) =>
      let copy : Receipt := .ok ⟨.v4 .loopback 8, Probe.reply (Probe.build n)⟩
      copy :: (evenAnswered source).arrivals j ++ [copy]
    | _ => []

lemma head?_launch {u : Surroundings} {p : Prober} {n : Nat}
    (h : u.send p.journal p.target (Probe.build p.next) = .ok n) :
    (p.launch u).2.journal.head? =
      some (.noted (.probeSent p.next (Probe.build p.next).length p.target)) := by
  rw [launch_eq, h]
  rfl

/-- Copies from another port are not heard. -/
lemma heard_between {target : Endpoint} {d : Datagram} (h : d.source.port ≠ target.port)
    (rs : List Receipt) : heard target (.ok d :: rs ++ [.ok d]) = heard target rs := by
  have hlast := heard_insert h (.ok d :: rs) []
  rw [List.append_nil] at hlast
  exact hlast.trans (heard_insert h [] rs)

/-- Nor is it heard from which host the replies come. -/
lemma heard_evenAnswered {i j : Journal} (h : i.head? = j.head?) :
    heard (.v4 .loopback 7) ((evenAnswered (.v4 .wildcard 7)).arrivals i) =
      heard (.v4 .loopback 7) ((evenAnswered (.v4 .loopback 7)).arrivals j) := by
  simp only [evenAnswered, h]
  split
  · rename_i n _ _ _
    by_cases heven : n.toNat % 2 = 0
    · rw [if_pos heven, if_pos heven]
      exact heard_rehost rfl rfl [] []
    · rw [if_neg heven, if_neg heven]
  · rfl

lemma heard_forged (j : Journal) :
    heard (.v4 .loopback 7) ((forged (.v4 .wildcard 7)).arrivals j) =
      heard (.v4 .loopback 7) ((evenAnswered (.v4 .wildcard 7)).arrivals j) := by
  rcases hj : j.head? with _ | a
  · simp only [forged, evenAnswered, hj]
  · cases a with
    | noted notice =>
      cases notice with
      | probeSent n size target =>
        simp only [forged, hj]
        refine heard_between ?_ _
        exact show (8 : UInt16) ≠ 7 by decide
      | _ => simp only [forged, evenAnswered, hj]
    | _ => simp only [forged, evenAnswered, hj]

/-- Whatever a prober of the port does, its pings are matched by those without the copies. -/
lemma matched_forged {p : Prober} (hp : p.target = .v4 .loopback 7) (i : Nat) :
    Matched (forged (.v4 .wildcard 7)) (evenAnswered (.v4 .loopback 7))
      (pings (forged (.v4 .wildcard 7)) p i).2 (pings (evenAnswered (.v4 .loopback 7)) p i).2 := by
  obtain ⟨htarget, htimeout, hnext⟩ := pings_spec (forged (.v4 .wildcard 7)) p i
  obtain ⟨htarget', htimeout', hnext'⟩ := pings_spec (evenAnswered (.v4 .loopback 7)) p i
  refine ⟨?_, ?_, ?_⟩
  · rw [hnext, hnext']
    rfl
  · rw [htimeout, htimeout']
    rfl
  · rw [htarget, htarget', hp]
    refine (heard_forged _).trans (heard_evenAnswered ?_)
    rw [head?_launch rfl, head?_launch rfl, htarget, htarget', hnext, hnext']

/-- Copies of the replies from another port, for probes that are answered and for those that are
not, and replies from another host: the pings go as they do without. -/
theorem pings_of_matched_forged :
    let p : Prober := { target := .v4 .loopback 7, timeout := 5000, next := 65535 }
    let u := forged (.v4 .wildcard 7)
    let v := evenAnswered (.v4 .loopback 7)
    Concord p p ∧ (∀ i < 3, Matched u v (pings u p i).2 (pings v p i).2) ∧
      (pings u p 3).1 = (pings v p 3).1 ∧ Concord (pings u p 3).2 (pings v p 3).2 ∧
      (pings v p 3).1 = [.ok (.timeout 65535), .ok (.reply 0 15), .ok (.timeout 1)] := by
  intro p u v
  have hp : Concord p p := ⟨rfl, rfl, rfl, rfl, rfl⟩
  have hm : ∀ i < 3, Matched u v (pings u p i).2 (pings v p i).2 := fun i _ => matched_forged rfl i
  obtain ⟨hresults, hconcord⟩ := pings_of_matched hp hm
  exact ⟨hp, hm, hresults, hconcord, by decide +kernel⟩

end Prober

end PortEcho
