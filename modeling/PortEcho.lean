import PortEcho.Bench.Responder
import PortEcho.Bench.Prober
import PortEcho.Bench.Programs
import PortEcho.Recall
import PortEcho.Main
import PortEcho.Proofs.Responder.Account
import PortEcho.Proofs.Responder.Conservation
import PortEcho.Proofs.Responder.Routing
import PortEcho.Proofs.Exchange.Basic
import PortEcho.Proofs.Probe
import PortEcho.Proofs.Prober.Ping
import PortEcho.Proofs.Responder.Leftovers
import PortEcho.Proofs.Exchange.Credit
import PortEcho.Proofs.Prober.Acceptance
import PortEcho.Proofs.Prober.Rounds
import PortEcho.Proofs.Prober.Account
import PortEcho.Proofs.Prober.Unrolling
import PortEcho.Proofs.Prober.Shutdown
import PortEcho.Proofs.Responder.Shutdown
import PortEcho.Proofs.Text
import PortEcho.Proofs.Report
import PortEcho.Proofs.Responder.Noninterference
import PortEcho.Proofs.Prober.Foreign
import PortEcho.Proofs.Prober.Survey
import PortEcho.Proofs.Prober.Queue
import PortEcho.Proofs.Prober.Failure
import PortEcho.Proofs.CommandLine.Refusal
import PortEcho.Proofs.Responder.Reading
import PortEcho.Proofs.Argument
import PortEcho.Proofs.Prober.Settings
import PortEcho.Proofs.Responder.Settings
import PortEcho.Proofs.CommandLine.Ports
import PortEcho.Proofs.Choice
import PortEcho.Proofs.Prober.Rest
import PortEcho.Proofs.Responder.Draining
