import PortEcho.Endpoint.Basic
import PortEcho.Text.Blank
import PortEcho.Text.Numeral

/-!
The settings of a responder: the port it listens on, read from the arguments it is started with.
-/

namespace PortEcho.Responder

def usage : String := "Usage: uping <port>"

/-- The most bytes of a datagram that are received. -/
def bufferSize : Nat := 1024

structure Settings where
  /-- The port to listen on; on port zero any free one is taken. -/
  port : UInt16
  deriving DecidableEq, Repr

inductive SettingsError
  | missingPort
  | invalidPort (argument : String)
  | unexpected (argument : String)
  deriving DecidableEq, Repr

def SettingsError.message : SettingsError → String
  | missingPort => "missing port argument"
  | invalidPort argument => "invalid port '" ++ argument ++ "'"
  | unexpected argument => "unexpected argument '" ++ argument ++ "'"

namespace Settings

/-- One argument after the program's name: a port, with or without blanks around it. -/
def ofArgs (args : List String) : Except SettingsError Settings :=
  match args.drop 1 with
  | [] => .error .missingPort
  | [argument] =>
    match Text.word16? (Text.trim argument.toList) with
    | some port => .ok ⟨port⟩
    | none => .error (.invalidPort argument)
  | _ :: extra :: _ => .error (.unexpected extra)

/-- All interfaces of the fourth version at the port. -/
def address (s : Settings) : Endpoint := .v4 .wildcard s.port

end Settings

end PortEcho.Responder
