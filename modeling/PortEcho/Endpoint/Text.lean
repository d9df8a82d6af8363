import PortEcho.Endpoint.Basic
import PortEcho.Text.Numeral

/-!
The written forms of addresses and endpoints.

Segments of the sixth version are written in lowercase hexadecimal between colons. The longest
run of two or more zero segments, the first of them on a tie, is left out between two colons.
A mapped address shows the address of the fourth version that it stands for.
-/

namespace PortEcho

open Text

def IPv4.text (ip : IPv4) : String :=
  toString ip.a ++ "." ++ toString ip.b ++ "." ++ toString ip.c ++ "." ++ toString ip.d

namespace IPv6

/-- The number of zero segments in front. -/
def zerosInFront (segments : List UInt16) : Nat := (segments.takeWhile (· == 0)).length

/-- Where the longest run of zero segments starts, and its length; the first one on a tie. -/
def longestZeros : List UInt16 → Nat × Nat
  | [] => (0, 0)
  | s :: rest =>
    let here := zerosInFront (s :: rest)
    let later := longestZeros rest
    if later.2 ≤ here then (0, here) else (later.1 + 1, later.2)

/-- The segments between colons. -/
def groups (segments : List UInt16) : String :=
  String.intercalate ":" (segments.map fun s => hexadecimal s.toNat)

def text (ip : IPv6) : String :=
  match ip.mapped? with
  | some ip => "::ffff:" ++ ip.text
  | none =>
    let (start, length) := longestZeros ip.toList
    if 2 ≤ length then
      groups (ip.toList.take start) ++ "::" ++ groups (ip.toList.drop (start + length))
    else groups ip.toList

end IPv6

namespace Endpoint

/-- The endpoint as `address:port`, the sixth version in brackets and with its scope unless that
is zero. -/
def text : Endpoint → String
  | v4 ip port => ip.text ++ ":" ++ toString port
  | v6 ip port _ scope =>
    if scope = 0 then "[" ++ ip.text ++ "]:" ++ toString port
    else "[" ++ ip.text ++ "%" ++ toString scope ++ "]:" ++ toString port

/-- The endpoint as a tuple of all its parts, as report lines show a sender. -/
def tuple : Endpoint → String
  | v4 ip port => "('" ++ ip.text ++ "', " ++ toString port ++ ")"
  | v6 ip port flow scope =>
    "('" ++ ip.text ++ "', " ++ toString port ++ ", " ++ toString flow ++ ", " ++
      toString scope ++ ")"

end Endpoint

end PortEcho
