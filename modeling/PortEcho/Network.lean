import PortEcho.Journal

/-!
The network of a host with no other machines on it, as its sockets see it.

An isolated host has no routes at all, and its loopback interface is down. With the loopback
interface up, the host reaches its own addresses. Datagrams for the wildcard address of the fourth
version are taken on either host, and on an isolated one lost.
-/

namespace PortEcho

inductive Network
  | isolated
  | loopback
  deriving DecidableEq, Repr

namespace Network

/-- Why a socket of the fourth version refuses to send to `dest`, if it does. -/
def refusal4 (n : Network) (dest : Endpoint) : Option Fault :=
  match dest with
  | .v6 .. => some .familyUnsupported
  | .v4 ip port =>
    if port = 0 then some .invalidInput
    else if ip = .wildcard then none
    else
      match n with
      | isolated => some .unreachable
      | loopback =>
        if ip = ⟨127, 255, 255, 255⟩ then some .forbidden
        else if ip.a = 127 then none
        else some .unreachable

/-- Why a socket of the sixth version refuses to send to `dest`, if it does. Mapped addresses are
sent to as the addresses of the fourth version that they stand for. -/
def refusal6 (n : Network) (dest : Endpoint) : Option Fault :=
  match dest.unmapped with
  | .v4 ip port => n.refusal4 (.v4 ip port)
  | .v6 ip port _ _ =>
    if port = 0 then some .invalidInput
    else
      match n with
      | isolated => some .notAvailable
      | loopback => if ip = .loopback ∨ ip = .wildcard then none else some .unreachable

/-- Why a socket of the family of `own` refuses to send to `dest`, if it does. -/
def refusal (n : Network) (own dest : Endpoint) : Option Fault :=
  if own.isV4 then n.refusal4 dest else n.refusal6 dest

def send (n : Network) (own dest : Endpoint) (bytes : Bytes) : Except Fault Nat :=
  match n.refusal own dest with
  | some e => .error e
  | none => .ok bytes.length

/-- The address of this host at which a datagram for `dest` comes in, if it comes in at all. -/
def destination? (n : Network) (dest : Endpoint) : Option Endpoint :=
  match n, dest.unmapped with
  | isolated, _ => none
  | loopback, .v4 ip port => some (.v4 (if ip = .wildcard then .loopback else ip) port)
  | loopback, .v6 ip port flow scope =>
    some (.v6 (if ip = .wildcard then .loopback else ip) port flow scope)

/-- Bind a socket to an address of this host. The ports in `used` are taken; asked for port zero,
the host gives the port `free`. -/
def bind (n : Network) (used : List UInt16) (free : UInt16) (address : Endpoint) :
    Except Fault Endpoint :=
  match address with
  | .v4 ip port =>
    if used.contains port then .error .inUse
    else .ok (.v4 ip (if port = 0 then free else port))
  | .v6 ip port flow scope =>
    if n = isolated ∧ ip = .loopback then .error .notAvailable
    else if used.contains port then .error .inUse
    else .ok (.v6 ip (if port = 0 then free else port) flow scope)

end Network

end PortEcho
