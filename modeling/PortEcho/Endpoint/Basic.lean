/-!
Addresses of hosts and of sockets.

An endpoint is a host's address with a port; one of the sixth version also carries a flow label
and a scope. Ports are what replies are matched by, host addresses need not agree.
-/

namespace PortEcho

/-- An address of the fourth version, by its four octets. -/
structure IPv4 where
  a : UInt8
  b : UInt8
  c : UInt8
  d : UInt8
  deriving DecidableEq, Repr

/-- An address of the sixth version, by its eight segments. -/
structure IPv6 where
  segments : Vector UInt16 8
  deriving DecidableEq, Repr

inductive IPAddress
  | v4 (ip : IPv4)
  | v6 (ip : IPv6)
  deriving DecidableEq, Repr

inductive Endpoint
  | v4 (ip : IPv4) (port : UInt16)
  | v6 (ip : IPv6) (port : UInt16) (flow scope : UInt32)
  deriving DecidableEq, Repr

namespace IPv4

def wildcard : IPv4 := ⟨0, 0, 0, 0⟩
def loopback : IPv4 := ⟨127, 0, 0, 1⟩

/-- The address that a number below `0x100000000` denotes. -/
def ofNat (n : Nat) : IPv4 :=
  ⟨.ofNat (n / 0x1000000), .ofNat (n / 0x10000), .ofNat (n / 0x100), .ofNat n⟩

/-- The two segments that the address fills when it ends an address of the sixth version. -/
def toSegments (ip : IPv4) : List UInt16 :=
  [ip.a.toUInt16 * 256 + ip.b.toUInt16, ip.c.toUInt16 * 256 + ip.d.toUInt16]

/-- The address that fills the segments `s` and `t`. -/
def ofSegments (s t : UInt16) : IPv4 :=
  ⟨(s / 256).toUInt8, s.toUInt8, (t / 256).toUInt8, t.toUInt8⟩

end IPv4

namespace IPv6

def wildcard : IPv6 := ⟨#v[0, 0, 0, 0, 0, 0, 0, 0]⟩
def loopback : IPv6 := ⟨#v[0, 0, 0, 0, 0, 0, 0, 1]⟩

def toList (ip : IPv6) : List UInt16 := ip.segments.toList

def ofList? (segments : List UInt16) : Option IPv6 :=
  if h : segments.length = 8 then some ⟨⟨segments.toArray, by simpa using h⟩⟩ else none

/-- The address of the fourth version that a mapped address, one of `::ffff:0:0/96`, stands for. -/
def mapped? (ip : IPv6) : Option IPv4 :=
  if ip.toList.take 6 = [0, 0, 0, 0, 0, 0xffff] then
    some (.ofSegments ip.segments[6] ip.segments[7])
  else none

/-- Whether the address holds on one link only, as that of a host or of a group of them. -/
def holdsOnLink (ip : IPv6) : Bool :=
  let first := ip.segments[0]
  first &&& 0xffc0 = 0xfe80 || first &&& 0xff0f = 0xff01 || first &&& 0xff0f = 0xff02

@[simp] theorem length_toList (ip : IPv6) : ip.toList.length = 8 := by simp [toList]

@[simp] theorem ofList?_toList (ip : IPv6) : ofList? ip.toList = some ip := by
  obtain ⟨⟨⟨segments⟩, h⟩⟩ := ip
  have h : segments.length = 8 := by simpa using h
  simp [ofList?, toList, h]

end IPv6

namespace Endpoint

def port : Endpoint → UInt16
  | v4 _ p => p
  | v6 _ p _ _ => p

def host : Endpoint → IPAddress
  | v4 ip _ => .v4 ip
  | v6 ip _ _ _ => .v6 ip

def isV4 : Endpoint → Bool
  | v4 .. => true
  | v6 .. => false

/-- The endpoint on a host, without a flow label and outside any scope. -/
def ofHost (host : IPAddress) (port : UInt16) : Endpoint :=
  match host with
  | .v4 ip => v4 ip port
  | .v6 ip => v6 ip port 0 0

/-- The endpoint that a mapped address stands for; any other is left as it is. -/
def unmapped (e : Endpoint) : Endpoint :=
  match e with
  | v4 .. => e
  | v6 ip port _ _ =>
    match ip.mapped? with
    | some ip => v4 ip port
    | none => e

/-- Any port on all interfaces, in the family of `e`. -/
def unbound (e : Endpoint) : Endpoint :=
  match e with
  | v4 .. => v4 .wildcard 0
  | v6 .. => v6 .wildcard 0 0 0

end Endpoint

end PortEcho
