import PortEcho.Endpoint.Basic
import PortEcho.Text.Numeral
import PortEcho.Text.Split

/-!
Addresses read from their written forms.

The fourth version is four decimal octets between dots, none with a leading zero. The sixth is
eight groups of one to four hexadecimal digits between colons, of which two colons may stand for
one or more zero groups, once; the last two groups may be written as an address of the fourth
version, unless the two colons end the text.
-/

namespace PortEcho

open Text

namespace IPv4

/-- A decimal number of at most 255 without leading zeros. -/
def octet? (cs : List Char) : Option UInt8 :=
  if cs.length ≤ 3 ∧ (cs.length ≤ 1 ∨ cs.head? ≠ some '0') then
    ((digits? 10 cs).filter (· < 256)).map UInt8.ofNat
  else none

def ofChars? (cs : List Char) : Option IPv4 :=
  match splitAt '.' cs with
  | [a, b, c, d] => do return ⟨← octet? a, ← octet? b, ← octet? c, ← octet? d⟩
  | _ => none

end IPv4

namespace IPv6

/-- One to four hexadecimal digits. -/
def group? (cs : List Char) : Option UInt16 :=
  if cs.length ≤ 4 then (digits? 16 cs).map UInt16.ofNat else none

/-- Groups between colons, of which the last may be a dotted address if `dotted` is set. -/
def groupsOfParts? (dotted : Bool) : List (List Char) → Option (List UInt16)
  | [] => some []
  | [part] =>
    match (if dotted then IPv4.ofChars? part else none) with
    | some ip => some ip.toSegments
    | none => (group? part).map ([·])
  | part :: parts => do return (← group? part) :: (← groupsOfParts? dotted parts)

/-- Groups between colons, or none at all. -/
def groups? (dotted : Bool) (cs : List Char) : Option (List UInt16) :=
  if cs.isEmpty then some [] else groupsOfParts? dotted (splitAt ':' cs)

def ofChars? (cs : List Char) : Option IPv6 :=
  match splitAtPair? ':' cs with
  | none => (groups? true cs).bind ofList?
  | some (front, back) => do
    let front ← groups? false front
    let back ← groups? true back
    if front.length + back.length < 8 then
      ofList? (front ++ List.replicate (8 - front.length - back.length) 0 ++ back)
    else none

end IPv6

/-- The address that a text writes out, of either version. -/
def IPAddress.ofChars? (cs : List Char) : Option IPAddress :=
  match IPv4.ofChars? cs with
  | some ip => some (.v4 ip)
  | none => (IPv6.ofChars? cs).map .v6

end PortEcho
