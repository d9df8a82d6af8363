import PortEcho.Endpoint.Literal

/-!
Endpoints of a host that is given by name.

A name that writes out an address needs no lookup. An address of the sixth version may be followed
by `%` and a zone, which is a number or, where addresses hold on one link only, the name of an
interface. All other names are looked up in a directory, and of the addresses found the first of
the fourth version is preferred. The directory of a machine without name servers knows its own
name and the number forms of addresses: one to four numbers between dots, in decimal, hexadecimal
after `0x` or octal after `0`, of which the last fills all the octets that the others leave.
-/

namespace PortEcho

open Text

/-- The first endpoint of the fourth version, or the first of all if there is none. -/
def Endpoint.choose (es : List Endpoint) : Option Endpoint :=
  match es.find? (·.isV4) with
  | some e => some e
  | none => es.head?

/-- The number form: leading octets, then one number for the rest. -/
def IPv4.ofNumbers? : List Nat → Option IPv4
  | [n] => if n < 0x100000000 then some (.ofNat n) else none
  | [a, n] => if a < 256 ∧ n < 0x1000000 then some (.ofNat (a * 0x1000000 + n)) else none
  | [a, b, n] =>
    if a < 256 ∧ b < 256 ∧ n < 0x10000 then
      some (.ofNat (a * 0x1000000 + b * 0x10000 + n))
    else none
  | [a, b, c, n] =>
    if a < 256 ∧ b < 256 ∧ c < 256 ∧ n < 256 then
      some (.ofNat (a * 0x1000000 + b * 0x10000 + c * 0x100 + n))
    else none
  | _ => none

def IPv4.ofNumberForm? (cs : List Char) : Option IPv4 :=
  ((splitAt '.' cs).mapM basedNumber?).bind ofNumbers?

/-- An address and the zone that stands after it; all that follows the first `%` is the zone. -/
def IPv6.ofZonedChars? (cs : List Char) : Option (IPv6 × List Char) :=
  match cs.dropWhile (· ≠ '%') with
  | [] => none
  | _ :: zone => (ofChars? (cs.takeWhile (· ≠ '%'))).map (·, zone)

/-- The number that a zone writes out. -/
def zoneNumber? (zone : List Char) : Option UInt32 :=
  ((digits? 10 zone).filter (· < 0x100000000)).map UInt32.ofNat

/-- The interface that a zone names. A colon and what follows it name no more than an address of
that interface; zones of more than fifteen bytes name none. -/
def interfaceName? (zone : List Char) : Option String :=
  if (String.ofList zone).utf8ByteSize ≤ 15 then some (.ofList (zone.takeWhile (· ≠ ':')))
  else none

/-- What is known of the names of hosts and interfaces. -/
structure Directory where
  addresses : String → List IPAddress
  /-- The number of an interface. -/
  interface? : String → Option UInt32

namespace Directory

/-- The directory of a machine that can ask no other; its one interface is the loopback. Hosts are
known by their names in either case, interfaces are not. -/
def standalone : Directory where
  addresses := fun name =>
    if name.toLower = "localhost" then [.v4 .loopback]
    else
      match IPv4.ofNumberForm? name.toList with
      | some ip => [.v4 ip]
      | none => []
  interface? := fun name => if name = "lo" then some 1 else none

/-- The scope that a zone stands for after the address `ip`. -/
def scope? (known : Directory) (ip : IPv6) (zone : List Char) : Option UInt32 :=
  match (if ip.holdsOnLink then (interfaceName? zone).bind known.interface? else none) with
  | some scope => some scope
  | none => zoneNumber? zone

end Directory

namespace Endpoint

/-- All endpoints of a host. A name that holds a NUL is looked up nowhere. -/
def candidates (known : Directory) (name : String) (port : UInt16) : List Endpoint :=
  let cs := name.toList
  match IPAddress.ofChars? cs with
  | some ip => [.ofHost ip port]
  | none =>
    if cs.contains '\x00' then []
    else
      match IPv6.ofZonedChars? cs with
      | some (ip, zone) => (known.scope? ip zone).toList.map (.v6 ip port 0)
      | none => (known.addresses name).map (.ofHost · port)

def resolve? (known : Directory) (name : String) (port : UInt16) : Option Endpoint :=
  choose (candidates known name port)

end Endpoint

end PortEcho
