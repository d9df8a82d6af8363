import PortEcho.Journal

/-!
A buffer that one call of receive after the other writes to.

A call writes to the front of the buffer and leaves what lies behind as it was, so the buffer holds
bytes of earlier datagrams. Only the size that the call gives tells which bytes are new.
-/

namespace PortEcho

structure Buffer (capacity : Nat) where
  bytes : Bytes
  length_bytes : bytes.length = capacity

namespace Buffer

variable {capacity : Nat}

def blank (capacity : Nat) : Buffer capacity where
  bytes := List.replicate capacity 0
  length_bytes := List.length_replicate

/-- Write as much to the front as there is room for. -/
def fill (b : Buffer capacity) (incoming : Bytes) : Buffer capacity where
  bytes := incoming.take capacity ++ b.bytes.drop incoming.length
  length_bytes := by
    have hlen := b.length_bytes
    rw [List.length_append, List.length_take, List.length_drop]
    omega

/-- The first `size` bytes. -/
def read (b : Buffer capacity) (size : Nat) : Bytes := b.bytes.take size

/-- A call of receive: the datagram is written to the buffer and read back from it. -/
def receive (b : Buffer capacity) : Receipt → Receipt × Buffer capacity
  | .error e => (.error e, b)
  | .ok d =>
    let b := b.fill d.bytes
    (.ok { d with bytes := b.read (min d.bytes.length capacity) }, b)

/-- What was just written is read back, cut to the buffer; nothing of what was there before. -/
theorem read_fill (b : Buffer capacity) (incoming : Bytes) :
    (b.fill incoming).read (min incoming.length capacity) = incoming.take capacity := by
  have hlen : (incoming.take capacity).length = min incoming.length capacity := by
    rw [List.length_take, Nat.min_comm]
  rw [read, fill, ← hlen, List.take_left]

/-- Whatever the buffer holds, a call of receive gives the datagram, cut to the buffer. -/
theorem fst_receive (b : Buffer capacity) (r : Receipt) :
    (b.receive r).1 = r.map (Datagram.cut capacity) := by
  rcases r with e | d
  · rfl
  · exact congrArg (fun bytes => Except.ok { d with bytes }) (b.read_fill d.bytes)

end Buffer

end PortEcho
