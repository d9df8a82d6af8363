import PortEcho.Clock
import PortEcho.Endpoint.Text
import PortEcho.Probe

/-!
Datagrams, and the line that reports one: when it came, which number it carries, how many bytes
go back, and to whom.
-/

namespace PortEcho

structure Datagram where
  source : Endpoint
  bytes : Bytes
  deriving DecidableEq, Repr

/-- What a buffer of `n` bytes keeps of a datagram. -/
def Datagram.cut (n : Nat) (d : Datagram) : Datagram := { d with bytes := d.bytes.take n }

structure Report where
  stamp : String
  number : UInt16
  size : Nat
  sender : Endpoint
  deriving DecidableEq, Repr

namespace Report

def ofDatagram (time : TimeOfDay) (d : Datagram) : Report where
  stamp := time.text
  number := Probe.number d.bytes
  size := (Probe.reply d.bytes).length
  sender := d.source

def line (r : Report) : String :=
  "['" ++ r.stamp ++ "'] " ++ toString r.number ++ ": " ++ toString r.size ++ " bytes " ++
    r.sender.tuple

end Report

end PortEcho
