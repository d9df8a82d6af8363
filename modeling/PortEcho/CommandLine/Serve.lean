import PortEcho.CommandLine.Run
import PortEcho.Responder.Service

/-!
The responder's command line. Arguments that are refused end the program before it touches a
socket.
-/

namespace PortEcho.CommandLine

open Responder

namespace Serve

def program : String := "uping"

/-- What is shown for arguments that are refused; if none are given, the usage is all there is. -/
def refusal : SettingsError → String
  | .missingPort => usage ++ "\n"
  | e => program ++ ": " ++ e.message ++ "\n" ++ usage ++ "\n"

def greeting (own : Endpoint) : String :=
  "Listening on " ++ IPv4.wildcard.text ++ ":" ++ toString own.port ++ "\n"

/-- What a service leaves. -/
def ofService (s : Service) : Run :=
  match s.result? with
  | some (.ok _) => ⟨s.journal, "", some 0⟩
  | some (.error e) => .failed s.journal e.detail
  | none => ⟨s.journal, "", none⟩

/-- Read the arguments, open the station and announce it. -/
def start (w : Surroundings) (args : List String) : Except Run Service :=
  match Settings.ofArgs args with
  | .error e => .error ⟨[], refusal e, some 1⟩
  | .ok settings =>
    match Station.listen w settings with
    | (.error e, station) => .error (.failed station.journal (Text.quoted e.message))
    | (.ok own, station) =>
      match station.desk.print w (greeting own) with
      | (some e, desk) => .error (.failed desk.journal e.detail)
      | (none, desk) => .ok ⟨{ station with desk }, .checking⟩

end Serve

/-- Run the responder for a number of turns of its service. -/
def serve (w : Surroundings) (turns : Nat) (args : List String) : Run :=
  match Serve.start w args with
  | .error r => r
  | .ok s => Serve.ofService (Service.run w turns s)

end PortEcho.CommandLine
