import PortEcho.CommandLine.Serve
import PortEcho.Proofs.Choice
import PortEcho.Proofs.Prober.Shutdown
import PortEcho.Proofs.Prober.Survey
import PortEcho.Proofs.Responder.Shutdown

/-!
Invocations that are refused.

Arguments that cannot be read end either program before it has done anything, and so does a host
without an address the prober. A program that is let go on asks for its socket first, and its
journal still tells so when it ends.
-/

namespace PortEcho

namespace Prober

lemma journal_ping (w : Surroundings) (p : Prober) : p.journal <:+ (p.ping w).2.journal := by
  obtain ⟨looks, h⟩ := ping_spec w p
  rw [h.journal]
  exact (List.suffix_cons ..).trans (List.suffix_append ..)

lemma Survey.Course.begun {w : Surroundings} {s t : Survey} {os : List Outcome}
    {broken : Option Breakdown} (h : Course w s os broken t) :
    s.prober.journal <:+ t.prober.journal := by
  induction h with
  | done s => exact List.suffix_rfl
  | @failed s e p hp =>
    have hbegun := journal_ping w s.prober
    rwa [hp] at hbegun
  | @pinged s t o p os broken hp _ ih =>
    have hbegun := journal_ping w s.prober
    rw [hp] at hbegun
    exact hbegun.trans ((List.suffix_cons ..).trans ih)

/-- A host is without an address if there are no candidates for one, and this is the only way that
looking it up fails. -/
lemma Settings.resolve_error_iff {known : Directory} {s : Settings} {e : Error} :
    s.resolve known = .error e ↔
      e = .unresolved s.host ∧ Endpoint.candidates known s.host s.port = [] := by
  rw [← Endpoint.choose_eq_none_iff, resolve, Endpoint.resolve?]
  rcases Endpoint.choose (Endpoint.candidates known s.host s.port) with _ | target
  · exact ⟨fun h => ⟨(Except.error.inj h).symm, rfl⟩, fun h => h.1 ▸ rfl⟩
  · exact ⟨nofun, nofun⟩

end Prober

namespace CommandLine

variable {w : Surroundings} {args : List String}

/-- The program has ended with status one and has done nothing but show `errors`. -/
structure Refused (r : Run) (errors : String) : Prop where
  status : r.status = some 1
  errors : r.errors = errors
  journal : r.journal = []
  output : r.output = ""

lemma refused_mk (errors : String) : Refused ⟨[], errors, some 1⟩ errors := ⟨rfl, rfl, rfl, rfl⟩

/-- The program has asked for a socket at `address` before anything else. -/
def Opened (w : Surroundings) (address : Endpoint) (j : Journal) : Prop :=
  [.bound address (w.bind [] address)] <:+ j

lemma Opened.mono {address : Endpoint} {i j : Journal} (h : Opened w address i) (hij : i <:+ j) :
    Opened w address j := h.trans hij

lemma Opened.ne_nil {address : Endpoint} {j : Journal} (h : Opened w address j) : j ≠ [] := by
  rintro rfl
  cases List.suffix_nil.mp h

section serve

open Responder

lemma journal_ofService (s : Service) : (Serve.ofService s).journal = s.journal := by
  unfold Serve.ofService
  rcases s.result? with _ | _ | _ <;> rfl

lemma opened_listen (w : Surroundings) (settings : Settings) :
    Opened w settings.address (Station.listen w settings).2.journal := by
  unfold Opened Station.listen
  rcases w.bind [] settings.address with e | own
  · exact List.suffix_rfl
  · exact List.suffix_cons ..

lemma journal_print (w : Surroundings) (line : String) (k : Desk) :
    k.journal <:+ (k.print w line).2.journal := by
  unfold Desk.print
  rcases w.print_cases line k.journal with ⟨e, -, hp⟩ | ⟨e, -, -, hp⟩ | ⟨-, -, hp⟩
  all_goals rw [hp]
  · exact List.suffix_cons ..
  · exact (List.suffix_cons ..).trans (List.suffix_cons ..)
  · exact (List.suffix_cons ..).trans (List.suffix_cons ..)

/-- A responder that can read its arguments asks for its socket. -/
lemma opened_serve {settings : Settings} (turns : Nat) (h : Settings.ofArgs args = .ok settings) :
    Opened w settings.address (serve w turns args).journal := by
  have hopened := opened_listen w settings
  unfold serve Serve.start
  rcases hl : Station.listen w settings with ⟨e | own, station⟩
  all_goals rw [hl] at hopened
  · simpa only [h, hl, Run.failed] using hopened
  · have hprint := journal_print w (Serve.greeting own) station.desk
    rcases hp : station.desk.print w (Serve.greeting own) with ⟨_ | e, desk⟩
    all_goals rw [hp] at hprint
    · obtain ⟨_, _, _, hrun⟩ := Service.advance_run w turns ⟨{ station with desk }, .checking⟩
      simp only [h, hl, hp, journal_ofService]
      exact (hopened.mono hprint).mono hrun.account.suffix
    · simpa only [h, hl, hp, Run.failed] using hopened.mono hprint

/-- A responder that cannot is refused. -/
lemma refused_serve {e : SettingsError} (turns : Nat) (h : Settings.ofArgs args = .error e) :
    Refused (serve w turns args) (Serve.refusal e) := by
  have hrun : serve w turns args = ⟨[], Serve.refusal e, some 1⟩ := by
    unfold serve Serve.start
    rw [h]
  rw [hrun]
  exact refused_mk _

end serve

section probe

open Prober

lemma journal_broken (j : Journal) (b : Breakdown) : (Probe.broken j b).journal = j := by
  cases b <;> rfl

lemma journal_ofRounds (r : Rounds) : (Probe.ofRounds r).journal = r.prober.journal := by
  unfold Probe.ofRounds
  rcases r.result? with _ | b | _
  · rfl
  · exact journal_broken _ b
  · rfl

lemma journal_ofSurvey (x : Option Breakdown × Survey) :
    (Probe.ofSurvey x).journal = x.2.prober.journal := by
  rcases x with ⟨_ | b, s⟩
  · rfl
  · exact journal_broken _ b

lemma opened_start (w : Surroundings) (target : Endpoint) (timeout : Nat) :
    Opened w target.unbound (Prober.start w target timeout).2.journal := by
  unfold Opened Prober.start
  rcases w.bind [] target.unbound with e | own <;> exact List.suffix_rfl

/-- A prober that can read its arguments and has an address asks for its socket. -/
lemma opened_probe {settings : Settings} {target : Endpoint} (turns : Nat)
    (h : Settings.ofArgs args = .ok settings) (ht : settings.resolve w.known = .ok target) :
    Opened w target.unbound (probe w turns args).journal := by
  have hopened := opened_start w target defaultTimeout
  unfold probe Probe.start
  rcases hs : Prober.start w target defaultTimeout with ⟨_ | e, p⟩
  all_goals rw [hs] at hopened
  · rcases hi : settings.interval with _ | secs
    · obtain ⟨os, hcourse, -⟩ := Survey.course_run w settings.count.toNat { prober := p }
      simp only [h, ht, hs, hi, journal_ofSurvey]
      exact hopened.mono hcourse.begun
    · have hrun := Rounds.heedful_run w settings.count.toNat (Probe.millis secs) turns p
      simp only [h, ht, hs, hi, journal_ofRounds]
      exact hopened.mono hrun.begun
  · simpa only [h, ht, hs, Run.failed] using hopened

/-- A prober that cannot read them is refused. -/
lemma refused_probe {e : SettingsError} (turns : Nat) (h : Settings.ofArgs args = .error e) :
    Refused (probe w turns args) (Probe.refusal e) := by
  have hrun : probe w turns args = ⟨[], Probe.refusal e, some 1⟩ := by
    unfold probe Probe.start
    rw [h]
  rw [hrun]
  exact refused_mk _

/-- A prober whose host has no address is refused as well, and shows no usage. -/
lemma refused_unresolved {settings : Settings} (turns : Nat)
    (h : Settings.ofArgs args = .ok settings)
    (hnone : Endpoint.candidates w.known settings.host settings.port = []) :
    Refused (probe w turns args)
      ("uping-probe: resolve failed for '" ++ settings.host ++ "'\n") := by
  have hopen : Probe.program ++ ": " ++ "resolve failed for '" =
    "uping-probe: resolve failed for '" := by decide +kernel
  have hclose : "'" ++ "\n" = "'\n" := rfl
  have htext : Probe.program ++ ": " ++ (Error.unresolved settings.host).message ++ "\n" =
      "uping-probe: resolve failed for '" ++ settings.host ++ "'\n" := by
    calc Probe.program ++ ": " ++ ("resolve failed for '" ++ settings.host ++ "'") ++ "\n"
        = Probe.program ++ ": " ++ "resolve failed for '" ++ settings.host ++ ("'" ++ "\n") := by
          simp only [String.append_assoc]
      _ = "uping-probe: resolve failed for '" ++ settings.host ++ "'\n" := by rw [hopen, hclose]
  have hresolve : settings.resolve w.known = .error (.unresolved settings.host) :=
    Settings.resolve_error_iff.mpr ⟨rfl, hnone⟩
  have hrun : probe w turns args =
      ⟨[], Probe.program ++ ": " ++ (Error.unresolved settings.host).message ++ "\n", some 1⟩ := by
    unfold probe Probe.start
    simp only [h, hresolve]
  rw [hrun, htext]
  exact refused_mk _

end probe

/-- **Refused invocations touch nothing.** Either program ends at once if it cannot read its
arguments, and shows why, if there is anything to say, and how it is used. The prober ends at once
also if its host has no address, which is the only way that looking it up fails, and then shows that
alone. In all other cases the program asks for a socket. -/
theorem refused_invocations (w : Surroundings) (turns : Nat) (args : List String) :
    ((∀ e, Responder.Settings.ofArgs args = .error e →
        Refused (serve w turns args)
          (if e = .missingPort then Responder.usage ++ "\n"
            else "uping: " ++ e.message ++ "\n" ++ Responder.usage ++ "\n")) ∧
      ((serve w turns args).journal = [] ↔ ∃ e, Responder.Settings.ofArgs args = .error e)) ∧
    (∀ e, Prober.Settings.ofArgs args = .error e →
      Refused (probe w turns args)
        ("uping-probe: " ++ e.message ++ "\n" ++ Prober.usage ++ "\n")) ∧
    (∀ settings, Prober.Settings.ofArgs args = .ok settings →
      (∀ e, settings.resolve w.known = .error e → e = .unresolved settings.host ∧
        Refused (probe w turns args)
          ("uping-probe: resolve failed for '" ++ settings.host ++ "'\n")) ∧
      ((∃ e, settings.resolve w.known = .error e) ↔
        Endpoint.candidates w.known settings.host settings.port = [])) ∧
    ((probe w turns args).journal = [] ↔ (∃ e, Prober.Settings.ofArgs args = .error e) ∨
      ∃ settings, Prober.Settings.ofArgs args = .ok settings ∧
        ∃ e, settings.resolve w.known = .error e) := by
  refine ⟨⟨fun e he => ?_, ?_⟩, fun e he => refused_probe turns he, fun settings hs => ⟨?_, ?_⟩, ?_⟩
  · have hrefused := refused_serve (w := w) turns he
    cases e <;> exact hrefused
  · refine ⟨fun hnil => ?_, fun ⟨e, he⟩ => (refused_serve turns he).journal⟩
    rcases hs : Responder.Settings.ofArgs args with e | settings
    · exact ⟨e, rfl⟩
    · exact absurd hnil (opened_serve turns hs).ne_nil
  · intro e he
    obtain ⟨rfl, hnone⟩ := Prober.Settings.resolve_error_iff.mp he
    exact ⟨rfl, refused_unresolved turns hs hnone⟩
  · simp only [Prober.Settings.resolve_error_iff, exists_eq_left]
  · refine ⟨fun hnil => ?_, ?_⟩
    · rcases hs : Prober.Settings.ofArgs args with e | settings
      · exact .inl ⟨e, rfl⟩
      · rcases hr : settings.resolve w.known with e | target
        · exact .inr ⟨settings, rfl, e, hr⟩
        · exact absurd hnil (opened_probe turns hs hr).ne_nil
    · rintro (⟨e, he⟩ | ⟨settings, hs, e, he⟩)
      · exact (refused_probe turns he).journal
      · exact (refused_unresolved turns hs (Prober.Settings.resolve_error_iff.mp he).2).journal

/-- Refused are a responder without a port and one whose port is a name, a prober without a port and
one whose host is known nowhere. -/
theorem refused_invocations_standalone :
    Refused (serve {} 9 ["uping"]) "Usage: uping <port>\n" ∧
    Refused (serve {} 9 ["uping", "http"]) "uping: invalid port 'http'\nUsage: uping <port>\n" ∧
    Refused (probe {} 9 ["uping-probe", "peer"])
      ("uping-probe: expected 2 or 3 arguments, got 1\n" ++
        "Usage: uping-probe [--interval <secs>] <host> <port> [<count>]\n") ∧
    Refused (probe {} 9 ["uping-probe", "no host", "9"])
      "uping-probe: resolve failed for 'no host'\n" := by
  have hbare := (refused_invocations {} 9 ["uping"]).1.1 .missingPort rfl
  have hread : Responder.Settings.ofArgs ["uping", "http"] = .error (.invalidPort "http") := by
    decide +kernel
  have hname := (refused_invocations {} 9 ["uping", "http"]).1.1 _ hread
  have hcount : Prober.Settings.ofArgs ["uping-probe", "peer"] = .error (.arity 1) := by
    decide +kernel
  have harity := (refused_invocations {} 9 ["uping-probe", "peer"]).2.1 _ hcount
  have hsettings : Prober.Settings.ofArgs ["uping-probe", "no host", "9"] =
    .ok ⟨"no host", 9, 1, none⟩ := by decide +kernel
  have hresolve : Prober.Settings.resolve .standalone ⟨"no host", 9, 1, none⟩ =
    .error (.unresolved "no host") := by decide +kernel
  have hprobe := (refused_invocations {} 9 ["uping-probe", "no host", "9"]).2.2.1 _ hsettings
  exact ⟨hbare, hname, harity, (hprobe.1 _ hresolve).2⟩

end CommandLine

end PortEcho
