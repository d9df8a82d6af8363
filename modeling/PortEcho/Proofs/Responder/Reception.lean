import Mathlib.Data.List.Basic
import PortEcho.Proofs.Responder.Conservation
import PortEcho.Proofs.Responder.Shutdown

/-!
What one call of receive does.

A call gives the oldest thing that is queued or, if nothing is, that it would block. What comes in
between the calls is arbitrary, so the results of the calls are too. A call within a drain either
lets it go on, with a datagram handled or a fault more, or ends it; the journal and the tally keep
no more than what was given.
-/

namespace PortEcho

/-- The output refuses nothing. -/
structure Surroundings.Prints (w : Surroundings) : Prop where
  write : ∀ j, w.write j = none
  flush : ∀ j, w.flush j = none

/-- What a call of receive gave. -/
def Act.receipt? : Act → Option Receipt
  | .received r => some r
  | _ => none

/-- The notice warns of faults of receiving. -/
def Notice.isOfReceiving : Notice → Bool
  | .receiveFailed _ | .gaveUp _ => true
  | _ => false

/-- A warning of faults of receiving. -/
def Act.warning? : Act → Option Notice
  | .noted n => if n.isOfReceiving then some n else none
  | _ => none

namespace Journal

def receipts (j : Journal) : List Receipt := j.view Act.receipt?

def warnings (j : Journal) : List Notice := j.view Act.warning?

lemma receipts_append (i j : Journal) : receipts (i ++ j) = receipts j ++ receipts i :=
  view_append ..

lemma warnings_append (i j : Journal) : warnings (i ++ j) = warnings j ++ warnings i :=
  view_append ..

end Journal

namespace Responder

/-- The call of receive would block. -/
def blocks : Receipt → Bool
  | .ok _ => false
  | .error e => e.kind = .wouldBlock

/-- The call of receive failed, and not because it would block. -/
def fails : Receipt → Bool
  | .ok _ => false
  | .error e => e.kind ≠ .wouldBlock

@[simp] lemma blocks_ok (d : Datagram) : blocks (.ok d) = false := rfl

@[simp] lemma fails_ok (d : Datagram) : fails (.ok d) = false := rfl

lemma fails_of_not_blocks {e : Fault} (h : ¬ blocks (.error e)) : fails (.error e) := by
  simpa [fails, blocks] using h

/-- The warning of a failed call; that it was interrupted is no reason to warn. -/
def warning? : Receipt → Option Notice
  | .ok _ => none
  | .error e =>
    if e.kind = .wouldBlock ∨ e.kind = .interrupted then none else some (.receiveFailed e)

/-! ### The socket -/

/-- What comes in on the socket before each of the calls of receive. -/
abbrev Inflow := Nat → List Receipt

/-- What is queued when the call numbered `n` is made. -/
def backlog (queue : List Receipt) (inflow : Inflow) : Nat → List Receipt
  | 0 => queue ++ inflow 0
  | n + 1 => (backlog queue inflow n).tail ++ inflow (n + 1)

/-- What the call numbered `n` gives. -/
def result (queue : List Receipt) (inflow : Inflow) (n : Nat) : Receipt :=
  (backlog queue inflow n).headD (.error .wouldBlock)

/-- What the first `n` calls give. -/
def results (queue : List Receipt) (inflow : Inflow) (n : Nat) : List Receipt :=
  (List.range n).map (result queue inflow)

/-- The first `n` calls, with what comes in before each. -/
def calls (inflow : Inflow) : Nat → List Event
  | 0 => []
  | n + 1 => calls inflow n ++ ((inflow n).map .arrive ++ [.receive])

variable {queue : List Receipt} {inflow : Inflow} {n : Nat}

@[simp] lemma results_zero (queue : List Receipt) (inflow : Inflow) :
    results queue inflow 0 = [] := rfl

lemma results_succ (queue : List Receipt) (inflow : Inflow) (n : Nat) :
    results queue inflow (n + 1) = results queue inflow n ++ [result queue inflow n] := by
  simp [results, List.range_succ]

@[simp] lemma length_results (queue : List Receipt) (inflow : Inflow) (n : Nat) :
    (results queue inflow n).length = n := by
  simp [results]

lemma forall_mem_results {P : Receipt → Prop} :
    (∀ r ∈ results queue inflow n, P r) ↔ ∀ i < n, P (result queue inflow i) := by
  simp [results]

/-- Calls may give anything whatever: each result comes in right before its call. -/
lemma result_singly (f : Nat → Receipt) (n : Nat) : result [] (fun i => [f i]) n = f n := by
  have hback : ∀ n, backlog [] (fun i => [f i]) n = [f n] := by
    intro n
    induction n with
    | zero => rfl
    | succ n ih => rw [backlog, ih]; rfl
  rw [result, hback]
  rfl

lemma backlog_eq_cons (h : ¬ blocks (result queue inflow n)) :
    backlog queue inflow n = result queue inflow n :: (backlog queue inflow n).tail := by
  unfold result at h ⊢
  rcases hb : backlog queue inflow n with _ | ⟨r, rest⟩
  · rw [hb] at h
    exact absurd rfl h
  · rfl

lemma arrivals_append (es fs : List Event) : arrivals (es ++ fs) = arrivals es ++ arrivals fs :=
  List.flatMap_append

lemma arrivals_arrive (rs : List Receipt) : arrivals (rs.map .arrive) = rs := by
  induction rs with
  | nil => rfl
  | cons r rs ih => rw [List.map_cons, arrivals_cons, ih]; rfl

lemma arrivals_calls_succ (inflow : Inflow) (n : Nat) :
    arrivals (calls inflow (n + 1)) = arrivals (calls inflow n) ++ inflow n := by
  rw [calls, arrivals_append, arrivals_append, arrivals_arrive]
  simp [Event.receipts]

/-- As long as no call would block, the results are what was queued and what comes in. -/
lemma results_append_backlog (h : ∀ i < n, ¬ blocks (result queue inflow i)) :
    queue ++ arrivals (calls inflow n) ++ inflow n =
      results queue inflow n ++ backlog queue inflow n := by
  induction n with
  | zero => simp [calls, backlog]
  | succ n ih =>
    have hcons := backlog_eq_cons (h n (Nat.lt_succ_self n))
    calc queue ++ arrivals (calls inflow (n + 1)) ++ inflow (n + 1)
        = queue ++ arrivals (calls inflow n) ++ inflow n ++ inflow (n + 1) := by
          rw [arrivals_calls_succ, ← List.append_assoc]
      _ = results queue inflow n ++ backlog queue inflow n ++ inflow (n + 1) := by
          rw [ih fun i hi => h i (Nat.lt_succ_of_lt hi)]
      _ = results queue inflow (n + 1) ++ backlog queue inflow (n + 1) := by
          rw [hcons, results_succ, backlog]
          simp

/-- A call gives a datagram, or fails, or would block. -/
lemma length_of_forall_not_blocks {rs : List Receipt} (h : ∀ r ∈ rs, ¬ blocks r) :
    rs.length = (datagramsIn rs).length + rs.countP fails := by
  induction rs with
  | nil => rfl
  | cons r rs ih =>
    obtain ⟨hr, hrs⟩ := List.forall_mem_cons.mp h
    have hlen := ih hrs
    rcases r with e | d
    · have hfails := fails_of_not_blocks hr
      have hskip : datagramsIn (.error e :: rs) = datagramsIn rs := rfl
      rw [List.countP_cons_of_pos hfails, hskip, List.length_cons]
      omega
    · have hfails : ¬ fails (.ok d) := by simp
      have hkeep : datagramsIn (.ok d :: rs) = d :: datagramsIn rs := rfl
      rw [List.countP_cons_of_neg hfails, hkeep, List.length_cons, List.length_cons]
      omega

/-! ### One call -/

lemma Desk.fault?_handling {w : Surroundings} (hw : w.Prints) (d : Datagram) (k : Desk) :
    (k.handling w d).fault? = none := by
  have hp := k.possible_handling w d
  unfold Handling.Possible at hp
  unfold Handling.fault?
  rcases hf : (k.handling w d).fate with e | e | e | m
  · rw [hf] at hp
    obtain ⟨j, hj⟩ := hp
    rw [hw.write] at hj
    cases hj
  · rw [hf] at hp
    obtain ⟨j, hj⟩ := hp
    rw [hw.flush] at hj
    cases hj
  · rfl
  · rfl

namespace Handling

variable (h : Handling)

lemma receipts_acts : Journal.receipts h.acts = [.ok h.datagram] := by
  obtain ⟨d, t, f⟩ := h
  cases f <;> simp [acts, printed, opening, Act.receipt?, Journal.receipts]
  split <;> simp [Act.receipt?]

lemma warnings_acts : Journal.warnings h.acts = [] := by
  obtain ⟨d, t, f⟩ := h
  cases f <;> simp [acts, printed, opening, Act.warning?, Notice.isOfReceiving, Journal.warnings]
  split <;> simp [Act.warning?, Notice.isOfReceiving]

end Handling

/-- From `s` to `t`, calls of receive have given `rs` and nothing else was received. The datagrams
among them were handled as `hs`, each once and in their order, and counted, and the warnings `ns`
were given. -/
structure Heard (s t : Station) (rs : List Receipt) (hs : List Handling) (ns : List Notice) :
    Prop where
  receipts : t.journal.receipts = s.journal.receipts ++ rs.map (·.map (Datagram.cut bufferSize))
  datagrams : hs.map Handling.datagram = (datagramsIn rs).map (Datagram.cut bufferSize)
  account : Account s.journal t.journal hs
  printed : ∀ h ∈ hs, h.fault? = none
  received : t.desk.tally.received = s.desk.tally.received + .ofNat hs.length
  warnings : t.journal.warnings = s.journal.warnings ++ ns

namespace Heard

variable {s t u : Station} {rs qs : List Receipt} {hs gs : List Handling} {ns ms : List Notice}

lemma of_desk (h : t.desk = s.desk) : Heard s t [] [] [] := by
  have hj : t.journal = s.journal := congrArg Desk.journal h
  refine ⟨by simp [hj], rfl, hj ▸ .nil, List.forall_mem_nil _, ?_, by simp [hj]⟩
  simp [h]

lemma trans (h : Heard s t rs hs ns) (g : Heard t u qs gs ms) :
    Heard s u (rs ++ qs) (hs ++ gs) (ns ++ ms) where
  receipts := by rw [g.receipts, h.receipts, List.map_append, List.append_assoc]
  datagrams := by
    rw [List.map_append, datagramsIn_append, List.map_append]
    exact congrArg₂ _ h.datagrams g.datagrams
  account := h.account.trans g.account
  printed := List.forall_mem_append.mpr ⟨h.printed, g.printed⟩
  received := by
    rw [g.received, h.received, List.length_append, UInt64.ofNat_add, UInt64.add_assoc]
  warnings := by rw [g.warnings, h.warnings, List.append_assoc]

lemma congr_desk (h : Heard s t rs hs ns) (hu : u.desk = t.desk) : Heard s u rs hs ns := by
  have hall := h.trans (of_desk hu)
  rwa [List.append_nil, List.append_nil, List.append_nil] at hall

end Heard

/-- What a call of receive does within a drain that has handled `m` datagrams and met `n` faults,
once it has given `r`. -/
inductive Took (m n : Nat) (s t : Station) (r : Receipt) : Prop
  | handled (h : Handling) (hb : ¬ blocks r) (hf : ¬ fails r)
      (heard : Heard s t [r] [h] (warning? r).toList) (phase : t.phase = .draining (m + 1) n)
  | blocked (hb : blocks r) (heard : Heard s t [r] [] (warning? r).toList)
      (phase : t.phase = .idle) (outcome : t.outcome = some (.ok m))
  | failed (hb : ¬ blocks r) (hf : fails r) (hn : n < maxFaults)
      (heard : Heard s t [r] [] (warning? r).toList) (phase : t.phase = .draining m (n + 1))
  | gaveUp (hb : ¬ blocks r) (hf : fails r) (hn : maxFaults ≤ n)
      (heard : Heard s t [r] [] ((warning? r).toList ++ [.gaveUp n])) (phase : t.phase = .idle)
      (outcome : t.outcome = some (.ok m))

lemma notices_eq (e : Fault) : Verdict.notices e = (warning? (.error e)).toList := by
  by_cases h : e.kind = .wouldBlock ∨ e.kind = .interrupted
  · simp [Verdict.notices, warning?, h]
  · simp [Verdict.notices, warning?, h]

lemma isOfReceiving_of_mem (e : Fault) : ∀ x ∈ (warning? (.error e)).toList, x.isOfReceiving := by
  intro x hx
  by_cases h : e.kind = .wouldBlock ∨ e.kind = .interrupted
  · simp [warning?, h] at hx
  · simp only [warning?, h, if_false, Option.toList_some, List.mem_singleton] at hx
    rw [hx]
    rfl

namespace Station

variable {w : Surroundings} {s : Station} {m : Nat}

/-- A call of receive within a drain: the oldest thing leaves the queue, and the drain goes on with
what the buffer takes of it. -/
lemma step_receive (w : Surroundings) (h : s.phase = .draining m n) :
    ∃ s' : Station, s'.desk = s.desk ∧ s'.queue = s.queue.tail ∧ s.step w .receive =
      s'.take w m n ((s.queue.headD (.error .wouldBlock)).map (Datagram.cut bufferSize)) := by
  rcases hq : s.queue with _ | ⟨r, rest⟩
  · exact ⟨s, rfl, hq, step_receive_nil w h hq⟩
  · exact ⟨s.without r rest, rfl, rfl, step_receive_cons w h hq⟩

/-- The fault is journaled with its warning, if it is told, and another notice, if there is one. -/
lemma heard_error (e : Fault) {t : Station} (ns : List Notice)
    (hns : ∀ x ∈ ns, x.isOfReceiving)
    (h : t.desk = ⟨s.desk.tally, (ns.map Act.noted).reverse ++
      .received (.error e) :: s.journal⟩) : Heard s t [.error e] [] ns := by
  have hj : t.journal = (ns.map Act.noted).reverse ++ .received (.error e) :: s.journal :=
    congrArg Desk.journal h
  have hnoted : ∀ a ∈ (ns.map Act.noted).reverse, ∃ x ∈ ns, a = .noted x := by
    intro a ha
    obtain ⟨x, hx, rfl⟩ := List.mem_map.mp (List.mem_reverse.mp ha)
    exact ⟨x, hx, rfl⟩
  refine ⟨?_, rfl, ?_, List.forall_mem_nil _, ?_, ?_⟩
  · have hnone : Journal.receipts (ns.map Act.noted).reverse = [] := by
      simp [Journal.receipts, Journal.view, Act.receipt?, List.filterMap_reverse,
        List.filterMap_map, Function.comp_def]
    rw [hj, Journal.receipts_append, hnone]
    simp [Journal.receipts, Act.receipt?]
    rfl
  · rw [hj]
    have hidle : ∀ a ∈ (ns.map Act.noted).reverse ++ [.received (.error e)], a.isIdle := by
      intro a ha
      rcases List.mem_append.mp ha with ha | ha
      · obtain ⟨x, -, rfl⟩ := hnoted a ha
        rfl
      · rw [List.mem_singleton.mp ha]
        rfl
    simpa using Account.of_idle (i := s.journal) hidle
  · rw [h]
    simp
  · have hall : Journal.warnings (ns.map Act.noted).reverse = ns := by
      have hsome : ns.filterMap (fun x => if x.isOfReceiving then some x else none) = ns :=
        (List.filterMap_congr fun x hx => if_pos (hns x hx)).trans List.filterMap_some
      simpa [Journal.warnings, Journal.view, List.filterMap_reverse, List.filterMap_map,
        Function.comp_def, Act.warning?] using hsome
    rw [hj, Journal.warnings_append, hall]
    simp [Journal.warnings, Act.warning?]

lemma heard_ok (hw : w.Prints) {d : Datagram} {h : Handling} {t : Station}
    (hh : h = s.desk.handling w (d.cut bufferSize))
    (ht : t.desk = ⟨h.count s.desk.tally, h.acts ++ s.journal⟩) : Heard s t [.ok d] [h] [] := by
  have hj : t.journal = h.acts ++ s.journal := congrArg Desk.journal ht
  have hd : h.datagram = d.cut bufferSize := by rw [hh]; rfl
  refine ⟨?_, ?_, ?_, ?_, ?_, ?_⟩
  · rw [hj, Journal.receipts_append, h.receipts_acts, hd]
    rfl
  · rw [List.map_singleton, hd]
    rfl
  · rw [hj]
    exact .handled h .nil
  · rw [hh]
    exact List.forall_mem_singleton.mpr (Desk.fault?_handling hw _ _)
  · rw [ht]
    exact Handling.foldl_received [h] s.desk.tally
  · rw [hj, Journal.warnings_append, h.warnings_acts]

/-- **What one call does.** -/
lemma took_take (hw : w.Prints) (m n : Nat) (r : Receipt) (s : Station) :
    Took m n s (s.take w m n (r.map (Datagram.cut bufferSize))) r := by
  rcases r with e | d
  · have hmap : (Except.error e : Receipt).map (Datagram.cut bufferSize) = .error e := rfl
    have hwarn := isOfReceiving_of_mem e
    rw [hmap, take_error, notices_eq]
    by_cases hb : e.kind = .wouldBlock
    · have hstop : Verdict.ofFault e = .stop := if_pos hb
      rw [hstop]
      exact .blocked (by simpa [blocks] using hb) (heard_error e _ hwarn rfl) rfl rfl
    · have hretry : Verdict.ofFault e = .retry := if_neg hb
      have hnot : ¬ blocks (.error e) := by simpa [blocks] using hb
      have hfails := fails_of_not_blocks hnot
      rw [hretry]
      by_cases hn : n < maxFaults
      · simp only [if_pos hn]
        exact .failed hnot hfails hn (heard_error e _ hwarn rfl) rfl
      · simp only [if_neg hn]
        refine .gaveUp hnot hfails (Nat.le_of_not_lt hn) ?_ rfl rfl
        have hall : ∀ x ∈ (warning? (.error e)).toList ++ [.gaveUp n], x.isOfReceiving :=
          List.forall_mem_append.mpr ⟨hwarn, List.forall_mem_singleton.mpr rfl⟩
        exact heard_error e _ hall (by simp [finish, note, enter, Desk.enter, journal])
  · obtain ⟨h, hh⟩ : ∃ h, h = s.desk.handling w (d.cut bufferSize) := ⟨_, rfl⟩
    have hmap : (Except.ok d : Receipt).map (Datagram.cut bufferSize) =
      .ok (d.cut bufferSize) := rfl
    have hf : h.fault? = none := hh ▸ Desk.fault?_handling hw _ _
    rw [hmap, take_ok w m n hh, hf]
    exact .handled h (by simp) (by simp) (heard_ok hw hh rfl) rfl

lemma run_arrive (w : Surroundings) (rs : List Receipt) (s : Station) :
    s.run w (rs.map .arrive) = s.letIn rs := by
  induction rs generalizing s with
  | nil => simp [letIn]
  | cons r rs ih =>
    rw [List.map_cons, run_cons, ih]
    simp [step, letIn]

lemma run_calls_succ (w : Surroundings) (s : Station) (inflow : Inflow) (n : Nat) :
    s.run w (calls inflow (n + 1)) =
      ((s.run w (calls inflow n)).letIn (inflow n)).step w .receive := by
  rw [calls, run_append, run_append, run_arrive]
  rfl

/-- Nothing is received once the drain is over; what comes in stays on the queue. -/
lemma run_calls_of_idle {k : Nat} (h : (s.run w (calls inflow n)).phase = .idle) (hk : n ≤ k) :
    (s.run w (calls inflow k)).phase = .idle ∧
      (s.run w (calls inflow k)).desk = (s.run w (calls inflow n)).desk ∧
      (s.run w (calls inflow k)).outcome = (s.run w (calls inflow n)).outcome ∧
      ∃ later, arrivals (calls inflow k) = arrivals (calls inflow n) ++ later ∧
        (s.run w (calls inflow k)).queue = (s.run w (calls inflow n)).queue ++ later := by
  induction k, hk using Nat.le_induction with
  | base => exact ⟨h, rfl, rfl, [], by simp, by simp⟩
  | succ k _ ih =>
    obtain ⟨hidle, hdesk, houtcome, later, harrived, hqueue⟩ := ih
    have hstep := step_receive_idle w (s := (s.run w (calls inflow k)).letIn (inflow k)) hidle
    rw [run_calls_succ, hstep]
    refine ⟨hidle, hdesk, houtcome, later ++ inflow k, ?_, ?_⟩
    · rw [arrivals_calls_succ, harrived, List.append_assoc]
    · show (s.run w (calls inflow k)).queue ++ inflow k = _
      rw [hqueue, List.append_assoc]

end Station

end Responder

end PortEcho
