import PortEcho.Proofs.Responder.Conservation

/-!
Who gets which replies.

Datagrams are taken in the order in which they came in, each once, so a client gets the replies to
its own datagrams in its own order. If nothing was refused and nothing is left, these are the
replies to all of them, whatever other clients have sent and however the polls were cut.
-/

namespace PortEcho

/-- What was sent to `a`. -/
def Journal.repliesTo (a : Endpoint) (j : Journal) : List Bytes :=
  (j.departures.filter (·.1 = a)).map (·.2)

/-- The call was refused. -/
def Act.isRefusal : Act → Bool
  | .wrote _ (some _) | .flushed (some _) | .sent _ _ (.error _) => true
  | _ => false

/-- No line, no flush and no reply was refused. -/
def Journal.Smooth (j : Journal) : Prop := ∀ a ∈ j, a.isRefusal = false

namespace Responder

/-- What `a` has sent. -/
def sentBy (a : Endpoint) (es : List Event) : List Datagram :=
  (datagramsIn (arrivals es)).filter (·.source = a)

lemma Handling.isAnswered_of_smooth {h : Handling} (hs : ∀ a ∈ h.acts, a.isRefusal = false) :
    h.isAnswered := by
  rcases hf : h.fate with e | e | e | n
  · simp [acts, hf, Act.isRefusal] at hs
  · simp [acts, hf, Act.isRefusal] at hs
  · simp [acts, hf, Act.isRefusal] at hs
  · simp [isAnswered, hf]

lemma Account.isAnswered_of_smooth {i j : Journal} {hs : List Handling} (h : Account i j hs)
    (hj : j.Smooth) : ∀ g ∈ hs, g.isAnswered := by
  induction h with
  | nil => simp
  | idle _ _ ih => exact ih fun a ha => hj a (List.mem_cons_of_mem _ ha)
  | handled g _ ih =>
    intro x hx
    rcases List.mem_append.mp hx with hx | hx
    · exact ih (fun a ha => hj a (List.mem_append_right _ ha)) x hx
    · rw [List.mem_singleton.mp hx]
      exact Handling.isAnswered_of_smooth fun a ha => hj a (List.mem_append_left _ ha)

/-- The station has handled `hs` of what came in by `es`, and what is left is queued. -/
structure Routed (es : List Event) (s : Station) (taken : List Receipt) (hs : List Handling) :
    Prop where
  order : arrivals es = taken ++ s.queue
  account : Account [] s.journal hs
  handled : hs.map Handling.datagram = (datagramsIn taken).map (Datagram.cut bufferSize)
  datagrams : s.journal.datagrams = (datagramsIn taken).map (Datagram.cut bufferSize)
  lines : s.journal.lines = (hs.filter Handling.isKept).map Handling.line
  departures : s.journal.departures =
    (hs.filter Handling.isAnswered).map fun h => (h.datagram.source, h.reply)
  replies : ∀ a, s.journal.repliesTo a =
    ((hs.filter Handling.isAnswered).filter (·.datagram.source = a)).map Handling.reply

namespace Routed

variable {es : List Event} {s : Station} {taken : List Receipt} {hs : List Handling}

lemma of_advance {w : Surroundings} (hw : w.SendsWhole) {settings : Settings}
    (h : Advance w (Station.listen w settings).2 s (arrivals es) taken hs) :
    Routed es s taken hs := by
  have hacc : Account [] s.journal hs := (Station.account_listen w settings).trans h.account
  have hdep : s.journal.departures =
      (hs.filter Handling.isAnswered).map fun g => (g.datagram.source, g.reply) :=
    hacc.departures hw h.possible
  have hdat : s.journal.datagrams = hs.map Handling.datagram := hacc.datagrams
  refine ⟨?_, hacc, h.datagrams, hdat.trans h.datagrams, hacc.lines, hdep, fun a => ?_⟩
  · simpa using h.queue
  · unfold Journal.repliesTo
    rw [hdep, List.filter_map, List.map_map]
    rfl

/-- Every client gets the replies to all that it has sent. -/
lemma repliesTo_eq (h : Routed es s taken hs) (hj : s.journal.Smooth) (hq : s.queue = [])
    (a : Endpoint) : s.journal.repliesTo a = (sentBy a es).map fun d => Probe.reply d.bytes := by
  have hall : hs.filter Handling.isAnswered = hs :=
    List.filter_eq_self.mpr (h.account.isAnswered_of_smooth hj)
  have htaken : taken = arrivals es := by simp [h.order, hq]
  have hreply : (hs.filter (·.datagram.source = a)).map Handling.reply =
      ((hs.map Handling.datagram).filter (·.source = a)).map fun d => Probe.reply d.bytes := by
    rw [List.filter_map, List.map_map]
    rfl
  rw [h.replies, hall, hreply, h.handled, htaken, List.filter_map, List.map_map]
  unfold sentBy
  exact List.map_congr_left fun d _ => reply_cut d

end Routed

/-- **Routing.** What was taken is a prefix of what came in; lines and replies follow its order,
and each reply goes to the sender of its datagram. Where nothing is refused or left, the replies to
a client are settled by what it has sent. -/
theorem routed_run {w : Surroundings} (hw : w.SendsWhole) (settings : Settings) (es : List Event)
    {s : Station} (hs : s = (Station.listen w settings).2.run w es) :
    (∃ taken gs, Routed es s taken gs) ∧
    (s.journal.Smooth → s.queue = [] → ∀ a,
      s.journal.repliesTo a = (sentBy a es).map fun d => Probe.reply d.bytes) ∧
    ∀ (w' : Surroundings) (settings' : Settings) (es' : List Event) (s' : Station),
      w'.SendsWhole → s' = (Station.listen w' settings').2.run w' es' →
      s.journal.Smooth → s.queue = [] → s'.journal.Smooth → s'.queue = [] →
      ∀ a, sentBy a es = sentBy a es' → s.journal.repliesTo a = s'.journal.repliesTo a := by
  obtain ⟨taken, gs, hadv⟩ := (Station.listen w settings).2.advance_run w es
  rw [← hs] at hadv
  have hr := Routed.of_advance hw hadv
  refine ⟨⟨taken, gs, hr⟩, hr.repliesTo_eq, ?_⟩
  intro w' settings' es' s' hw' hs' hj hq hj' hq' a ha
  obtain ⟨taken', gs', hadv'⟩ := (Station.listen w' settings').2.advance_run w' es'
  rw [← hs'] at hadv'
  have hr' := Routed.of_advance hw' hadv'
  rw [hr.repliesTo_eq hj hq, hr'.repliesTo_eq hj' hq', ha]

/-- The first client gets the same replies with and without a second one. -/
theorem routed_run_two_clients :
    let w : Surroundings := {}
    let es := [.arrive (call 1 1), .arrive (call 2 2), .poll, .receive, .receive, .receive]
    let es' := [.arrive (call 1 1), .poll, .receive, .receive]
    let s := (Station.listen w ⟨7⟩).2.run w es
    let s' := (Station.listen w ⟨7⟩).2.run w es'
    (w.SendsWhole ∧ s.journal.Smooth ∧ s.queue = [] ∧ s'.journal.Smooth ∧ s'.queue = []) ∧
      (∃ taken gs, Routed es s taken gs) ∧
      s.journal.repliesTo (.v4 .loopback 1) = s'.journal.repliesTo (.v4 .loopback 1) := by
  intro w es es' s s'
  have hw : w.SendsWhole := fun _ _ _ _ h => (Except.ok.inj h).symm
  have hj : s.journal.Smooth := by
    show ∀ a ∈ _, _
    decide
  have hj' : s'.journal.Smooth := by
    show ∀ a ∈ _, _
    decide
  obtain ⟨hrouted, -, hsame⟩ := routed_run hw ⟨7⟩ es rfl
  exact ⟨⟨hw, hj, rfl, hj', rfl⟩, hrouted, hsame w ⟨7⟩ es' s' hw rfl hj rfl hj' rfl _ (by decide)⟩

end Responder

end PortEcho
