import PortEcho.Endpoint.Lookup
import PortEcho.Fault
import PortEcho.Text.Numeral

/-!
The settings of a prober, read from the arguments it is started with: a host, a port and how many
probes to send, with `--interval` and its value anywhere between them.
-/

namespace PortEcho.Prober

def usage : String := "Usage: uping-probe [--interval <secs>] <host> <port> [<count>]"

/-- How long a reply is waited for, in milliseconds, unless something else is asked for. -/
def defaultTimeout : Nat := 5000

structure Settings where
  host : String
  port : UInt16
  /-- Probes to send, in each round if there are rounds. -/
  count : UInt32
  /-- Seconds between two rounds; none if there is only one. -/
  interval : Option UInt64
  deriving DecidableEq, Repr

inductive SettingsError
  | missingInterval
  | invalidInterval (argument : String)
  | arity (count : Nat)
  | invalidPort (argument : String)
  | invalidCount (argument : String)
  deriving DecidableEq, Repr

def SettingsError.message : SettingsError → String
  | missingInterval => "--interval needs a value"
  | invalidInterval argument => "invalid interval '" ++ argument ++ "'"
  | arity count => "expected 2 or 3 arguments, got " ++ toString count
  | invalidPort argument => "invalid port '" ++ argument ++ "'"
  | invalidCount argument => "invalid count '" ++ argument ++ "'"

/-- Why a prober cannot start or go on. -/
inductive Error
  | usage (text : String)
  | unresolved (host : String)
  | socket (fault : Fault)
  deriving DecidableEq, Repr

def Error.message : Error → String
  | usage text => text
  | unresolved host => "resolve failed for '" ++ host ++ "'"
  | socket fault => "socket error: " ++ fault.message

/-- The error with all its parts, as it is shown when it ends a program. -/
def Error.detail : Error → String
  | usage text => "Usage(" ++ Text.quoted text ++ ")"
  | unresolved host => "Resolve(" ++ Text.quoted host ++ ")"
  | socket fault => "Io(" ++ fault.detail ++ ")"

namespace Settings

def intervalFlag : String := "--interval"

/-- A positive number of seconds. -/
def interval? (argument : String) : Option UInt64 :=
  (Text.word64? argument.toList).filter (0 < ·)

def portOf (argument : String) : Except SettingsError UInt16 :=
  match Text.word16? argument.toList with
  | some port => .ok port
  | none => .error (.invalidPort argument)

def countOf (argument : String) : Except SettingsError UInt32 :=
  match Text.word32? argument.toList with
  | some count => .ok count
  | none => .error (.invalidCount argument)

/-- The arguments beside the interval: host, port and, if it is not one, the count. -/
def ofPositionals (interval : Option UInt64) : List String → Except SettingsError Settings
  | [host, port] => do return ⟨host, ← portOf port, 1, interval⟩
  | [host, port, count] => do return ⟨host, ← portOf port, ← countOf count, interval⟩
  | args => .error (.arity args.length)

/-- The arguments after the program's name. The first `--interval` takes the argument after it as
its value; all others are positional. -/
def ofArgs (args : List String) : Except SettingsError Settings :=
  let args := args.drop 1
  let front := args.takeWhile (· ≠ intervalFlag)
  match args.dropWhile (· ≠ intervalFlag) with
  | [] => ofPositionals none front
  | [_] => .error .missingInterval
  | _ :: argument :: back =>
    match interval? argument with
    | some secs => ofPositionals (some secs) (front ++ back)
    | none => .error (.invalidInterval argument)

def resolve (known : Directory) (s : Settings) : Except Error Endpoint :=
  match Endpoint.resolve? known s.host s.port with
  | some e => .ok e
  | none => .error (.unresolved s.host)

end Settings

end PortEcho.Prober
