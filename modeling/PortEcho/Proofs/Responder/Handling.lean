import Mathlib.Data.List.Basic
import PortEcho.Responder.Handling

/-!
What the handling of one datagram leaves behind.

A handling has one of four fates, by the call that refused, if one did. Its acts stand in one block
in the journal and end where the handling ended, so a reply is always preceded by the written and
flushed line of its own datagram.
-/

namespace PortEcho

/-- A datagram is sent whole or not at all. -/
def Surroundings.SendsWhole (w : Surroundings) : Prop :=
  ∀ j dest bytes n, w.send j dest bytes = .ok n → n = bytes.length

namespace Responder

/-- What became of a datagram. -/
inductive Fate
  /-- Its line was refused. -/
  | unwritten (e : Fault)
  /-- Its line was written, the flush refused. -/
  | unflushed (e : Fault)
  /-- Its line is out, the reply was refused. -/
  | refused (e : Fault)
  /-- Its line is out, and so many bytes of the reply were taken. -/
  | answered (n : Nat)

structure Handling where
  datagram : Datagram
  time : TimeOfDay
  fate : Fate

namespace Handling

def report (h : Handling) : Report := .ofDatagram h.time h.datagram
def line (h : Handling) : String := h.report.line ++ "\n"
def reply (h : Handling) : Bytes := Probe.reply h.datagram.bytes

def isUnwritten (h : Handling) : Bool := h.fate matches .unwritten _
def isUnflushed (h : Handling) : Bool := h.fate matches .unflushed _
def isRefused (h : Handling) : Bool := h.fate matches .refused _
def isAnswered (h : Handling) : Bool := h.fate matches .answered _

/-- The line is in the output, flushed or not. -/
def isKept (h : Handling) : Bool := !h.isUnwritten

/-- The fault that the handling ended with, if the output refused something. -/
def fault? (h : Handling) : Option Fault :=
  match h.fate with
  | .unwritten e | .unflushed e => some e
  | _ => none

/-- The acts up to the line, the latest first. -/
def opening (h : Handling) : List Act :=
  [.noted (.received h.datagram.bytes.length h.datagram.source), .received (.ok h.datagram)]

/-- The acts up to the reply, the latest first. -/
def printed (h : Handling) : List Act := .flushed none :: .wrote h.line none :: h.opening

/-- All acts of the handling, the latest first. -/
def acts (h : Handling) : List Act :=
  match h.fate with
  | .unwritten e => .wrote h.line (some e) :: h.opening
  | .unflushed e => .flushed (some e) :: .wrote h.line none :: h.opening
  | .refused e =>
    .noted (.replyRefused h.datagram.source e) ::
      .sent h.datagram.source h.reply (.error e) :: h.printed
  | .answered n =>
    (if n < h.reply.length then [.noted (.shortSend h.datagram.source n h.reply.length)] else []) ++
      .sent h.datagram.source h.reply (.ok n) :: h.printed

/-- What the handling adds to the tally. -/
def count (t : Tally) (h : Handling) : Tally :=
  match h.fate with
  | .unwritten _ | .unflushed _ => t.countReceived
  | .refused _ => t.countReceived.countFailure
  | .answered n => t.countReceived.countEchoed n

/-- The surroundings have given the answers that led to the fate. -/
def Possible (w : Surroundings) (h : Handling) : Prop :=
  match h.fate with
  | .unwritten e => ∃ j, w.write j = some e
  | .unflushed e => ∃ j, w.flush j = some e
  | .refused e => ∃ j, w.send j h.datagram.source h.reply = .error e
  | .answered n => ∃ j, w.send j h.datagram.source h.reply = .ok n

end Handling

namespace Desk

/-- What becomes of a datagram, by the first call that refuses. -/
def fate (w : Surroundings) (d : Datagram) (k : Desk) : Fate :=
  let j := k.journal
  let line := k.lineFor w d
  match w.write j with
  | some e => .unwritten e
  | none =>
    match w.flush (.wrote line none :: j) with
    | some e => .unflushed e
    | none =>
      match w.send (.flushed none :: .wrote line none :: j) d.source (Probe.reply d.bytes) with
      | .error e => .refused e
      | .ok n => .answered n

/-- The handling of a datagram that is just received. -/
def handling (w : Surroundings) (d : Datagram) (k : Desk) : Handling :=
  let k := (k.enter (.received (.ok d))).letIn d
  ⟨d, w.time k.journal, k.fate w d⟩

section cases

variable (w : Surroundings) (d : Datagram) (k : Desk)

/-- The line is refused, or its flush is, or what becomes of the datagram is up to the reply. -/
lemma fate_cases :
    (∃ e, w.write k.journal = some e ∧ k.fate w d = .unwritten e ∧ k.print w (k.lineFor w d) =
      (some e, ⟨k.tally, .wrote (k.lineFor w d) (some e) :: k.journal⟩)) ∨
    (∃ e, w.flush (.wrote (k.lineFor w d) none :: k.journal) = some e ∧
      k.fate w d = .unflushed e ∧ k.print w (k.lineFor w d) =
        (some e, ⟨k.tally, .flushed (some e) :: .wrote (k.lineFor w d) none :: k.journal⟩)) ∨
    (∃ j, j = .flushed none :: .wrote (k.lineFor w d) none :: k.journal ∧
      k.fate w d = (match w.send j d.source (Probe.reply d.bytes) with
        | .error e => .refused e
        | .ok n => .answered n) ∧
      k.print w (k.lineFor w d) = (none, ⟨k.tally, j⟩)) := by
  unfold print fate
  rcases w.print_cases (k.lineFor w d) k.journal with ⟨e, hw, hp⟩ | ⟨e, hw, hf, hp⟩ |
    ⟨hw, hf, hp⟩
  · exact .inl ⟨e, hw, by simp only [hw], by rw [hp]⟩
  · exact .inr (.inl ⟨e, hf, by simp only [hw, hf], by rw [hp]⟩)
  · exact .inr (.inr ⟨_, rfl, by simp only [hw, hf], by rw [hp]⟩)

lemma answer_cases :
    (∃ e, w.send k.journal d.source (Probe.reply d.bytes) = .error e ∧ k.answer w d =
      ⟨k.tally.countFailure, .noted (.replyRefused d.source e) ::
        .sent d.source (Probe.reply d.bytes) (.error e) :: k.journal⟩) ∨
    (∃ n, w.send k.journal d.source (Probe.reply d.bytes) = .ok n ∧ k.answer w d =
      ⟨k.tally.countEchoed n,
        (if n < (Probe.reply d.bytes).length then
          [.noted (.shortSend d.source n (Probe.reply d.bytes).length)] else []) ++
        .sent d.source (Probe.reply d.bytes) (.ok n) :: k.journal⟩) := by
  unfold answer settle
  rcases hs : w.send k.journal d.source (Probe.reply d.bytes) with e | n
  · exact .inl ⟨e, rfl, by simp [enter, note, hs]⟩
  · refine .inr ⟨n, rfl, ?_⟩
    by_cases hn : n < (Probe.reply d.bytes).length <;> simp [enter, note, hs, hn]

/-- To handle a datagram just received is to add the acts of its handling. -/
theorem handle_eq :
    (k.enter (.received (.ok d))).handle w d = ((k.handling w d).fault?,
      ⟨(k.handling w d).count k.tally, (k.handling w d).acts ++ k.journal⟩) := by
  obtain ⟨i, hi⟩ : ∃ i : Journal,
    i = .noted (.received d.bytes.length d.source) :: .received (.ok d) :: k.journal := ⟨_, rfl⟩
  have hk : (k.enter (.received (.ok d))).letIn d = ⟨k.tally.countReceived, i⟩ := by
    rw [hi]; rfl
  unfold handle handling
  rw [hk]
  rcases fate_cases w d ⟨k.tally.countReceived, i⟩ with ⟨e, -, hf, hp⟩ | ⟨e, -, hf, hp⟩ |
    ⟨j, hj, hf, hp⟩
  · simp only [hf, hp]
    rw [hi]; rfl
  · simp only [hf, hp]
    rw [hi]; rfl
  · simp only [hf, hp]
    rcases answer_cases w d ⟨k.tally.countReceived, j⟩ with ⟨e, hs, ha⟩ | ⟨n, hs, ha⟩
    · simp only [hs, ha]
      rw [hj, hi]; rfl
    · simp only [hs, ha]
      rw [hj, hi]
      simp only [Handling.acts, List.append_assoc]
      rfl

lemma possible_handling : (k.handling w d).Possible w := by
  unfold handling Handling.Possible
  simp only
  rcases fate_cases w d ((k.enter (.received (.ok d))).letIn d) with ⟨e, hw, hf, -⟩ |
    ⟨e, hw, hf, -⟩ | ⟨j, -, hf, -⟩
  · simp only [hf]
    exact ⟨_, hw⟩
  · simp only [hf]
    exact ⟨_, hw⟩
  · rw [hf]
    rcases hs : w.send j d.source (Probe.reply d.bytes) with e | n
    · exact ⟨j, hs⟩
    · exact ⟨j, hs⟩

end cases

end Desk

namespace Handling

variable (h : Handling)

@[simp] lemma datagrams_acts : Journal.datagrams h.acts = [h.datagram] := by
  obtain ⟨d, t, f⟩ := h
  cases f <;> simp [acts, printed, opening, Act.datagram?, Journal.datagrams]
  split <;> simp [Act.datagram?]

@[simp] lemma lines_acts : Journal.lines h.acts = if h.isKept then [h.line] else [] := by
  obtain ⟨d, t, f⟩ := h
  cases f <;> simp [acts, printed, opening, isKept, isUnwritten, Act.line?, Journal.lines]
  split <;> simp [Act.line?]

@[simp] lemma flushes_acts : Journal.flushes h.acts = if h.isKept then 1 else 0 := by
  obtain ⟨d, t, f⟩ := h
  cases f <;> simp [acts, printed, opening, isKept, isUnwritten, Act.isFlush, Journal.flushes,
    List.countP_cons]

/-- A handling that was answered has sent its reply whole. -/
lemma size_eq {w : Surroundings} {h : Handling} {n : Nat} (hw : w.SendsWhole)
    (hp : h.Possible w) (hf : h.fate = .answered n) : n = h.reply.length := by
  unfold Possible at hp
  rw [hf] at hp
  obtain ⟨j, hj⟩ := hp
  exact hw j _ _ n hj

lemma departures_acts {w : Surroundings} (hw : w.SendsWhole) (hp : h.Possible w) :
    Journal.departures h.acts =
      if h.isAnswered then [(h.datagram.source, h.reply)] else [] := by
  rcases hf : h.fate with e | e | e | n
  · simp [acts, hf, opening, isAnswered, Act.departure?, Journal.departures]
  · simp [acts, hf, opening, isAnswered, Act.departure?, Journal.departures]
  · simp [acts, hf, printed, opening, isAnswered, Act.departure?, Journal.departures]
  · have hn := size_eq hw hp hf
    simp [acts, hf, printed, opening, isAnswered, Act.departure?, Journal.departures, hn]

/-- A reply comes right after the printed line of its datagram. -/
lemma printed_of_sent {later earlier : List Act} {dest : Endpoint} {bytes : Bytes}
    {given : Except Fault Nat} (he : h.acts = later ++ .sent dest bytes given :: earlier) :
    dest = h.datagram.source ∧ bytes = h.reply ∧ earlier = h.printed := by
  rcases hf : h.fate with e | e | e | n
  · simp [acts, hf, opening, List.cons_eq_append_iff] at he
  · simp [acts, hf, opening, List.cons_eq_append_iff] at he
  · simp [acts, hf, printed, opening, List.cons_eq_append_iff] at he
    obtain ⟨-, ⟨hd, hb, -⟩, he⟩ := he
    exact ⟨hd, hb, he⟩
  · by_cases hn : n < h.reply.length
    · simp [acts, hf, printed, opening, hn, List.cons_eq_append_iff] at he
      obtain ⟨-, ⟨hd, hb, -⟩, he⟩ := he
      exact ⟨hd, hb, he⟩
    · simp [acts, hf, printed, opening, hn, List.cons_eq_append_iff] at he
      obtain ⟨-, ⟨hd, hb, -⟩, he⟩ := he
      exact ⟨hd, hb, he⟩

end Handling

end Responder

end PortEcho
