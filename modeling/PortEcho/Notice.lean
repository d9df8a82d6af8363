import PortEcho.Endpoint.Text
import PortEcho.Fault
import PortEcho.Tally

/-!
Notices: what a program tells about its work beside its output, each with a level.
-/

namespace PortEcho

inductive Level
  | trace | debug | info | warn
  deriving DecidableEq, Repr

def Level.name : Level → String
  | trace => "TRACE"
  | debug => "DEBUG"
  | info => "INFO"
  | warn => "WARN"

inductive Notice
  | bound (address : Endpoint)
  | received (size : Nat) (sender : Endpoint)
  | shortSend (dest : Endpoint) (sent size : Nat)
  | replyRefused (dest : Endpoint) (fault : Fault)
  | receiveFailed (fault : Fault)
  | gaveUp (faults : Nat)
  | stopping (summary : String)
  | probeSent (number : UInt16) (size : Nat) (target : Endpoint)
  | ignored (size : Nat) (sender : Endpoint)
  | answeredFrom (target sender : Endpoint)
  deriving DecidableEq, Repr

namespace Notice

def level : Notice → Level
  | bound .. => .debug
  | received .. => .trace
  | shortSend .. => .debug
  | replyRefused .. => .warn
  | receiveFailed .. => .warn
  | gaveUp .. => .warn
  | stopping .. => .info
  | probeSent .. => .trace
  | ignored .. => .debug
  | answeredFrom .. => .debug

def message : Notice → String
  | bound address => "Socket bound to " ++ address.text
  | received size sender =>
    "Received " ++ toString size ++ " bytes from " ++ sender.text
  | shortSend dest sent size =>
    "Short send to " ++ dest.text ++ ": " ++ toString sent ++ " of " ++ toString size ++ " bytes"
  | replyRefused dest fault => "Failed to send reply to " ++ dest.text ++ ": " ++ fault.message
  | receiveFailed fault => "Receive error: " ++ fault.message
  | gaveUp faults => "Giving up drain after " ++ toString faults ++ " receive errors"
  | stopping summary => "Shutting down: " ++ summary
  | probeSent number size target =>
    "Sent probe " ++ toString number ++ " (" ++ toString size ++ " bytes) to " ++ target.text
  | ignored size sender =>
    "Ignoring " ++ toString size ++ " unexpected bytes from " ++ sender.text
  | answeredFrom target sender =>
    "Reply to " ++ target.text ++ " came from " ++ sender.text

/-- The notice as a record: level, then message. -/
def record (n : Notice) : String := n.level.name ++ " " ++ n.message

end Notice

end PortEcho
