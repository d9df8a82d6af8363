import Mathlib.Data.List.Basic
import PortEcho.Probe

/-!
Probes, the replies to them, and the numbers in both.

A reply of two bytes or more tells which probe it answers. Only a single byte can answer more
than one, and no responder makes one of a probe that carries its whole number.
-/

namespace PortEcho.Probe

@[simp] theorem number_build (n : UInt16) : number (build n) = n := by
  have hlt := n.toNat_lt
  apply UInt16.toNat_inj.mp
  simp [number, build]
  omega

lemma number_cons_cons (a b : UInt8) (bytes : Bytes) :
    number (a :: b :: bytes) = a.toUInt16 + 256 * b.toUInt16 := rfl

/-- Two bytes of a datagram are enough to tell its number. -/
lemma number_eq_of_start {bs cs : Bytes} (hlen : 2 ≤ bs.length) (h : bs <+: cs) :
    number bs = number cs := by
  obtain ⟨rest, rfl⟩ := h
  rcases bs with _ | ⟨a, _ | ⟨b, bs⟩⟩
  · simp at hlen
  · simp at hlen
  · rw [List.cons_append, List.cons_append, number_cons_cons, number_cons_cons]

lemma length_reply_build (n : UInt16) : (reply (build n)).length = maxReply := by
  rw [length_reply, length_build]
  rfl

/-- The beginning of a probe tells which probe it is if it has two bytes. -/
lemma number_of_isReply {n : UInt16} {bs : Bytes} (hlen : 2 ≤ bs.length)
    (h : isReply (build n) bs = true) : number bs = n :=
  (number_eq_of_start hlen (isReply_iff.mp h).2).trans (number_build n)

/-- What is sent back of two bytes or more of a probe answers this probe and no other. -/
lemma isReply_start {m n : UInt16} {bs : Bytes} (hlen : 2 ≤ bs.length) (hpre : bs <+: build m) :
    isReply (build n) bs = true ↔ m = n := by
  constructor
  · intro h
    calc m = number (build m) := (number_build m).symm
      _ = number bs := (number_eq_of_start hlen hpre).symm
      _ = n := number_of_isReply hlen h
  · rintro rfl
    refine isReply_iff.mpr ⟨fun h => ?_, hpre⟩
    rw [h] at hlen
    simp at hlen

/-- The reply to a probe answers this probe and no other. -/
theorem isReply_reply_build {m n : UInt16} :
    isReply (build n) (reply (build m)) = true ↔ m = n := by
  have hlen : 2 ≤ (reply (build m)).length := by
    rw [length_reply_build]
    decide
  exact isReply_start hlen (List.take_prefix ..)

/-! ### Byte by byte -/

/-- What stands at a place of the probe numbered `n`: the two halves of the number, then letters. -/
def byteAt (n : UInt16) : Nat → Nat
  | 0 => n.toNat % 256
  | 1 => n.toNat / 256
  | i + 2 => 'a'.toNat + i % 25

lemma toNat_getElem_build (n : UInt16) {i : Nat} (h : i < (build n).length) :
    (build n)[i].toNat = byteAt n i := by
  have hn := n.toNat_lt
  rcases i with _ | _ | i
  · simp [build, byteAt]
  · simp [build, byteAt]
    omega
  · simp [build, filler, byteAt]
    omega

/-- A reply is told from other bytes at each place by itself. -/
lemma isReply_build_iff {n : UInt16} {bs : Bytes} : isReply (build n) bs = true ↔
    1 ≤ bs.length ∧ bs.length ≤ length ∧
      ∀ (i : Nat) (h : i < bs.length), bs[i].toNat = byteAt n i := by
  have hnonempty : bs ≠ [] ↔ 1 ≤ bs.length := by
    rw [← List.length_pos_iff]
    omega
  have hsame : ∀ (i : Nat) (h : i < bs.length) (hle : bs.length ≤ (build n).length),
      bs[i] = (build n)[i] ↔ bs[i].toNat = byteAt n i := by
    intro i h hle
    rw [← UInt8.toNat_inj, toNat_getElem_build]
  rw [isReply_iff, hnonempty, List.prefix_iff_getElem]
  constructor
  · rintro ⟨hpos, hle, hbytes⟩
    exact ⟨hpos, length_build n ▸ hle, fun i h => (hsame i h hle).mp (hbytes i h)⟩
  · rintro ⟨hpos, hle, hbytes⟩
    rw [← length_build n] at hle
    exact ⟨hpos, hle, fun i h => (hsame i h hle).mpr (hbytes i h)⟩

lemma isReply_singleton {n : UInt16} {b : UInt8} :
    isReply (build n) [b] = true ↔ b.toNat = n.toNat % 256 := by
  rw [isReply_build_iff]
  constructor
  · rintro ⟨-, -, hbytes⟩
    exact hbytes 0 (by simp)
  · intro h
    have hle : 1 ≤ length := by decide
    refine ⟨Nat.le_refl 1, hle, fun i hi => ?_⟩
    obtain rfl : i = 0 := by simpa using hi
    exact h

/-- Only a single byte can answer two probes, if it is the low half of both their numbers. -/
lemma isReply_both {m n : UInt16} {bs : Bytes} (hne : m ≠ n) :
    isReply (build m) bs = true ∧ isReply (build n) bs = true ↔
      ∃ b, bs = [b] ∧ b.toNat = m.toNat % 256 ∧ m.toNat % 256 = n.toNat % 256 := by
  constructor
  · rintro ⟨hm, hn⟩
    rcases bs with _ | ⟨b, _ | ⟨c, cs⟩⟩
    · exact absurd rfl (isReply_iff.mp hm).1
    · rw [isReply_singleton] at hm hn
      exact ⟨b, rfl, hm, hm.symm.trans hn⟩
    · have hlen : 2 ≤ (b :: c :: cs).length := by simp
      have hsame : m = n := (number_of_isReply hlen hm).symm.trans (number_of_isReply hlen hn)
      exact absurd hsame hne
  · rintro ⟨b, rfl, hm, hmn⟩
    exact ⟨isReply_singleton.mpr hm, isReply_singleton.mpr (hm.trans hmn)⟩

/-- A responder that gets two bytes or more of a probe answers this probe and no other. -/
lemma isReply_reply_take {m n : UInt16} {k : Nat} (hk : 2 ≤ k) :
    isReply (build n) (reply ((build m).take k)) = true ↔ m = n := by
  refine isReply_start ?_ ((List.take_prefix ..).trans (List.take_prefix ..))
  rw [length_reply, List.length_take, length_build]
  simp only [maxReply, length, fillerLength]
  omega

/-- **Which replies fit which probes.** A reply has one to 258 bytes, and at each place the byte of
the probe. With two bytes or more it tells the probe's number, so it fits two probes only if it is
the single byte in which their numbers agree; and what a responder makes of two bytes or more of a
probe fits this probe alone. -/
theorem replies_of_probe (m n : UInt16) (bs : Bytes) :
    (isReply (build n) bs = true ↔
      1 ≤ bs.length ∧ bs.length ≤ 258 ∧
        ∀ (i : Nat) (h : i < bs.length), bs[i].toNat = byteAt n i) ∧
    (isReply (build n) bs = true → 2 ≤ bs.length → number bs = n) ∧
    (m ≠ n → (isReply (build m) bs = true ∧ isReply (build n) bs = true ↔
      ∃ b, bs = [b] ∧ b.toNat = m.toNat % 256 ∧ m.toNat % 256 = n.toNat % 256)) ∧
    (∀ k, 2 ≤ k → (isReply (build n) (reply ((build m).take k)) = true ↔ m = n)) :=
  ⟨isReply_build_iff, fun h hlen => number_of_isReply hlen h, isReply_both,
    fun _ hk => isReply_reply_take hk⟩

/-- Two numbers with one low half: a single byte answers both, two bytes tell them apart. -/
theorem replies_of_probe_lowHalf :
    (isReply (build 0x0102) [2] = true ∧ isReply (build 0x0002) [2] = true) ∧
    number [2, 1, 0x61] = 0x0102 ∧
    isReply (build 0x0002) (reply ((build 0x0102).take 2)) ≠ true := by
  obtain ⟨-, -, hboth, hreply⟩ := replies_of_probe 0x0102 0x0002 [2]
  obtain ⟨hbytes, hnumber, -, -⟩ := replies_of_probe 0x0102 0x0102 [2, 1, 0x61]
  refine ⟨(hboth (by decide)).mpr ⟨2, rfl, rfl, rfl⟩, hnumber (hbytes.mpr ?_) (by decide), ?_⟩
  · exact ⟨by decide, by decide, by decide⟩
  · exact mt (hreply 2 (by decide)).mp (by decide)

end PortEcho.Probe
