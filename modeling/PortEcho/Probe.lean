/-!
Probes and the replies to them.

A probe carries its number in its first two bytes, the low one first, and a fixed filler after
them. A responder sends back the first bytes of what it receives, so a reply counts if it is a
non-empty part of the probe's beginning.
-/

namespace PortEcho

abbrev Bytes := List UInt8

namespace Probe

/-- The longest reply. -/
def maxReply : Nat := 15

def fillerLength : Nat := 256

/-- Number and filler together. -/
def length : Nat := 2 + fillerLength

/-- The number in the first two bytes. A byte that is missing counts as zero. -/
def number (bytes : Bytes) : UInt16 :=
  (bytes.getD 0 0).toUInt16 + 256 * (bytes.getD 1 0).toUInt16

/-- The bytes that go back to the sender. -/
def reply (bytes : Bytes) : Bytes := bytes.take maxReply

/-- The letters from `a` to `y`, over and over. -/
def filler : Bytes := (List.range fillerLength).map fun i => UInt8.ofNat ('a'.toNat + i % 25)

def build (number : UInt16) : Bytes := number.toUInt8 :: (number / 256).toUInt8 :: filler

def isReply (probe bytes : Bytes) : Bool := !bytes.isEmpty && bytes.isPrefixOf probe

@[simp] theorem length_filler : filler.length = fillerLength := by simp [filler]

@[simp] theorem length_build (number : UInt16) : (build number).length = length := by
  simp [build, length]
  omega

theorem length_reply (bytes : Bytes) : (reply bytes).length = min maxReply bytes.length := by
  simp [reply]

theorem isReply_iff {probe bytes : Bytes} :
    isReply probe bytes = true ↔ bytes ≠ [] ∧ bytes <+: probe := by
  simp [isReply]

end Probe

end PortEcho
