import PortEcho.Proofs.Report
import PortEcho.Proofs.Responder.Noninterference

/-!
Report lines, read back.

A reader that knows nothing of the responder takes a line apart from its front: at the first blank,
at the first colon before a blank, and at the first ` bytes `. It finds the time, the number, the
size of the reply that goes back, and the sender. A line ends where the responder ends it and
nowhere before, so the output is read as what was handled, datagram by datagram.
-/

namespace PortEcho

open Text

/-- What a line tells. -/
structure Reading where
  stamp : String
  number : UInt16
  size : Nat
  sender : String
  deriving DecidableEq, Repr

/-- Take a line apart from its front. -/
def Reading.ofLine? (line : List Char) : Option Reading := do
  let (stamp, rest) ← cut? " ".toList line
  let (number, rest) ← cut? ": ".toList rest
  let (size, sender) ← cut? " bytes ".toList rest
  return ⟨.ofList stamp, ← word16? number, ← below? 0x10000000000000000 size, .ofList sender⟩

/-- What is to be read of a datagram that is handled at `time`. -/
def Reading.of (time : TimeOfDay) (d : Datagram) : Reading where
  stamp := "['" ++ time.text ++ "']"
  number := Probe.number d.bytes
  size := (Probe.reply d.bytes).length
  sender := d.source.tuple

/-- The stamp shows the time: hour, minute and second in two decimal digits each. -/
def Stamps (time : TimeOfDay) (stamp : String) : Prop :=
  ∃ h₁ h₂ m₁ m₂ s₁ s₂,
    stamp.toList = "['".toList ++ [h₁, h₂, ':', m₁, m₂, ':', s₁, s₂] ++ "']".toList ∧
      digits? 10 [h₁, h₂] = some time.hour.val ∧ digits? 10 [m₁, m₂] = some time.minute.val ∧
      digits? 10 [s₁, s₂] = some time.second.val

namespace TimeOfDay

lemma toList_text (t : TimeOfDay) : t.text.toList =
    (twoDigits t.hour).toList ++ ':' :: (twoDigits t.minute).toList ++
      ':' :: (twoDigits t.second).toList := by
  have hcolon : ":".toList = [':'] := rfl
  simp only [text, String.toList_append, hcolon, List.append_assoc, List.cons_append,
    List.nil_append]

lemma stamps_text (t : TimeOfDay) : Stamps t ("['" ++ t.text ++ "']") := by
  have hhour : t.hour.val < 100 := by omega
  have hminute : t.minute.val < 100 := by omega
  have hsecond : t.second.val < 100 := by omega
  refine ⟨_, _, _, _, _, _, ?_, digits?_twoDigits hhour, digits?_twoDigits hminute,
    digits?_twoDigits hsecond⟩
  rw [String.toList_append, String.toList_append, toList_text, toList_twoDigits hhour,
    toList_twoDigits hminute, toList_twoDigits hsecond]
  rfl

lemma notMem_text {c : Char} (hdigit : digitValue? c = none) (hcolon : c ≠ ':') (t : TimeOfDay) :
    c ∉ t.text.toList := by
  have hhour := notMem_twoDigits hdigit (show t.hour.val < 100 by omega)
  have hminute := notMem_twoDigits hdigit (show t.minute.val < 100 by omega)
  have hsecond := notMem_twoDigits hdigit (show t.second.val < 100 by omega)
  rw [toList_text]
  simp [hhour, hminute, hsecond, hcolon]

end TimeOfDay

namespace Report

/-- The line, cut where it is read from its front. -/
lemma toList_line_front (r : Report) : r.line.toList =
    ("['" ++ r.stamp ++ "']").toList ++ " ".toList ++
      (Nat.toDigits 10 r.number.toNat ++ ": ".toList ++
        (Nat.toDigits 10 r.size ++ " bytes ".toList ++ r.sender.tuple.toList)) := by
  have hnumber : (toString r.number).toList = Nat.toDigits 10 r.number.toNat :=
    toList_toString r.number.toNat
  have hblank : "'] ".toList = "']".toList ++ " ".toList := rfl
  simp only [line, String.toList_append, hnumber, toList_toString, hblank, List.append_assoc]

/-- A report is read back from the front of its line if no blank stands in its stamp. -/
lemma ofLine?_line {r : Report} (hstamp : ' ' ∉ r.stamp.toList) (hsize : r.size < 2 ^ 64) :
    Reading.ofLine? r.line.toList =
      some ⟨"['" ++ r.stamp ++ "']", r.number, r.size, r.sender.tuple⟩ := by
  have hframe : ' ' ∉ ("['" ++ r.stamp ++ "']").toList := by
    rw [String.toList_append, String.toList_append, List.mem_append, List.mem_append]
    simp [hstamp]
  have hnumber : ':' ∉ Nat.toDigits 10 r.number.toNat :=
    notMem_toDigits (by decide) (by decide) rfl _
  have hdigits : ' ' ∉ Nat.toDigits 10 r.size := notMem_toDigits (by decide) (by decide) rfl _
  have hfirst := cut?_append " ".toList rfl hframe
  have hsecond := cut?_append ": ".toList rfl hnumber
  have hthird := cut?_append " bytes ".toList rfl hdigits
  have hbound : r.size < 0x10000000000000000 := by omega
  unfold Reading.ofLine?
  simp only [toList_line_front, hfirst, hsecond, hthird, Option.bind_eq_bind, Option.bind_some,
    word16?_toDigits, below?_toDigits hbound, String.ofList_toList, Option.pure_def]

/-- A line is one line if its stamp is. -/
lemma notMem_line {r : Report} (hstamp : '\n' ∉ r.stamp.toList) : '\n' ∉ r.line.toList := by
  have hnumber : ∀ n, '\n' ∉ Nat.toDigits 10 n := notMem_toDigits (by decide) (by decide) rfl
  have htuple := r.sender.notMem_tuple
  rw [toList_line_front, String.toList_append, String.toList_append]
  simp [hstamp, hnumber, htuple]

end Report

/-- The line of a datagram is one line, and is read as what is to be read of the datagram. -/
lemma Reading.ofLine?_ofDatagram (time : TimeOfDay) (d : Datagram) :
    '\n' ∉ (Report.ofDatagram time d).line.toList ∧
      Reading.ofLine? (Report.ofDatagram time d).line.toList = some (.of time d) := by
  have hsize : (Probe.reply d.bytes).length < 2 ^ 64 := by
    have hle : (Probe.reply d.bytes).length ≤ 15 := by
      rw [Probe.length_reply]
      exact Nat.min_le_left ..
    omega
  exact ⟨Report.notMem_line (time.notMem_text rfl (by decide)),
    Report.ofLine?_line (time.notMem_text rfl (by decide)) hsize⟩

namespace Responder

/-- The output of a responder that has handled `hs` is read, line by line, as what was handled, and
all that was sent is what an earlier line tells. -/
structure Transcript (j : Journal) (hs : List Handling) : Prop where
  datagrams : j.datagrams = hs.map Handling.datagram
  lines : ∃ ls, splitAt '\n' (String.join j.lines).toList = ls ++ [[]] ∧
    ls.map Reading.ofLine? =
      (hs.filter Handling.isKept).map fun h => some (.of h.time h.datagram)
  sent : ∀ later dest bytes given earlier, j = later ++ .sent dest bytes given :: earlier →
    ∃ h ∈ hs, h.line ∈ Journal.lines earlier ∧
      (Reading.of h.time h.datagram).number = Probe.number bytes ∧
      (Reading.of h.time h.datagram).size = bytes.length ∧
      (Reading.of h.time h.datagram).sender = dest.tuple

/-- An account is a transcript. -/
lemma Account.transcript {j : Journal} {hs : List Handling} (h : Account [] j hs) :
    Transcript j hs where
  datagrams := h.datagrams
  lines := by
    have hlines : j.lines = (hs.filter Handling.isKept).map Handling.line := h.lines
    have houtput : (String.join j.lines).toList =
        ((hs.filter Handling.isKept).map (·.report.line.toList)).flatMap (· ++ ['\n']) := by
      rw [hlines, String.toList_join]
      simp [List.flatMap_map, Handling.line]
    refine ⟨(hs.filter Handling.isKept).map (·.report.line.toList), ?_, ?_⟩
    · rw [houtput, splitAt_flatMap]
      intro l hl
      obtain ⟨x, -, rfl⟩ := List.mem_map.mp hl
      exact (Reading.ofLine?_ofDatagram x.time x.datagram).1
    · rw [List.map_map]
      exact List.map_congr_left fun x _ => (Reading.ofLine?_ofDatagram x.time x.datagram).2
  sent := by
    intro later dest bytes given earlier hj
    obtain ⟨x, hx, rfl, rfl, hprinted⟩ := h.printed_of_sent hj
    refine ⟨x, hx, ?_, (Probe.number_reply _).symm, rfl, rfl⟩
    obtain ⟨before, rfl⟩ := hprinted
    rw [Journal.lines_append]
    simp [Handling.printed, Act.line?]

/-- A sender of the sixth version brings colons of its own. -/
example :
    Reading.ofLine? "['14:03:22'] 513: 2 bytes ('fe80::1:2', 54321, 0, 7)".toList =
      some ⟨"['14:03:22']", 513, 2, "('fe80::1:2', 54321, 0, 7)"⟩ := by decide +kernel

end Responder

end PortEcho
