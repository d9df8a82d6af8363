import PortEcho.Proofs.Prober.Settings
import PortEcho.Proofs.Responder.Settings

/-!
Ports on the two command lines.

Both read a port in the same way, but for the blanks around it, which only the responder takes
away. So what the prober takes for a port is the same port to the responder.
-/

namespace PortEcho.CommandLine

open Text

/-- Behind a host, the prober takes an argument for this port. -/
def ProbeTakes (program host argument : String) (port : UInt16) : Prop :=
  ∃ s, Prober.Settings.ofArgs [program, host, argument] = .ok s ∧ s.port = port

/-- The responder takes an argument for this port. -/
def ServeTakes (program argument : String) (port : UInt16) : Prop :=
  Responder.Settings.ofArgs [program, argument] = .ok ⟨port⟩

variable {program host argument : String} {port : UInt16}

/-- The prober takes exactly the numerals for ports. -/
lemma probeTakes_iff (hhost : host ≠ Prober.Settings.intervalFlag) :
    ProbeTakes program host argument port ↔ Numeral argument.toList port.toNat := by
  have hread : ∀ {w : UInt16}, Numeral argument.toList w.toNat →
      Prober.Settings.ofArgs [program, host, argument] = .ok ⟨host, w, 1, none⟩ := by
    intro w hw
    have hpositional : Prober.Positional [host, argument] host w 1 := .two hw
    exact Prober.Settings.ofArgs_of_grammar ⟨[host, argument],
      .whole (Prober.Settings.notMem_of_positional hpositional hhost), hpositional⟩
  constructor
  · rintro ⟨s, hs, rfl⟩
    by_cases hport : ∃ w : UInt16, Numeral argument.toList w.toNat
    · obtain ⟨w, hw⟩ := hport
      cases hs.symm.trans (hread hw)
      exact hw
    · obtain ⟨e, he⟩ : ∃ e, Prober.Flaw [host, argument] e := by
        by_cases hflag : argument = Prober.Settings.intervalFlag
        · have hfront : Prober.Settings.intervalFlag ∉ [host] := by simpa using hhost.symm
          rw [hflag]
          exact ⟨_, .dangling hfront⟩
        · have hargs : Prober.Settings.intervalFlag ∉ [host, argument] := by
            simp [hhost.symm, Ne.symm hflag]
          exact ⟨_, .positional (.whole hargs) (.port (by simp) hport)⟩
      cases hs.symm.trans (Prober.Settings.ofArgs_of_flaw he)
  · exact fun h => ⟨_, hread h, rfl⟩

/-- The responder takes the same numerals for the same ports, and nothing else that has no blank at
its ends. -/
lemma numeral_iff_serveTakes : Numeral argument.toList port.toNat ↔
    ServeTakes program argument port ∧ Bare argument.toList := by
  rw [ServeTakes, Responder.Settings.ofArgs_eq_ok_iff]
  constructor
  · intro h
    exact ⟨⟨_, h.bare.stripped, h⟩, h.bare⟩
  · rintro ⟨⟨core, hcore, h⟩, hbare⟩
    rwa [hcore.eq_of_bare hbare] at h

/-- **One reading of ports.** Behind any host, the prober takes an argument for a port just if the
responder takes it for the same port and no blank stands at its ends. So every port of the prober is
this port to the responder, and where they differ there are blanks around what the responder takes
for a port. -/
theorem ports_agree (program host argument : String) (hhost : host ≠ Prober.Settings.intervalFlag) :
    (∀ port, ProbeTakes program host argument port ↔
      ServeTakes program argument port ∧ Bare argument.toList) ∧
    (∀ port, ProbeTakes program host argument port → ServeTakes program argument port) ∧
    ((∃ port, ¬ (ProbeTakes program host argument port ↔ ServeTakes program argument port)) ↔
      ¬ Bare argument.toList ∧ ∃ port, ServeTakes program argument port) := by
  have hports : ∀ port, ProbeTakes program host argument port ↔
      ServeTakes program argument port ∧ Bare argument.toList := fun port =>
    (probeTakes_iff hhost).trans numeral_iff_serveTakes
  refine ⟨hports, fun port h => ((hports port).mp h).1, ?_⟩
  constructor
  · rintro ⟨port, hdiffer⟩
    rw [hports, and_iff_left_iff_imp, Classical.not_imp] at hdiffer
    exact ⟨hdiffer.2, port, hdiffer.1⟩
  · rintro ⟨hbare, port, hport⟩
    exact ⟨port, fun hsame => hbare ((hports port).mp (hsame.mpr hport)).2⟩

/-- A sign and zeros are no hindrance to either, a blank at the end is one to the prober, also if it
is not in ASCII. -/
theorem ports_agree_spaced :
    "box" ≠ Prober.Settings.intervalFlag ∧ ProbeTakes "program" "box" "+007" 7 ∧
    ServeTakes "program" "7\u2003" 7 ∧ ¬ ProbeTakes "program" "box" "7\u2003" 7 := by
  have hbox : "box" ≠ Prober.Settings.intervalFlag := by decide
  have hserve : ServeTakes "program" "+007" 7 := by
    unfold ServeTakes
    decide
  have hspaced : ServeTakes "program" "7\u2003" 7 := by
    unfold ServeTakes
    decide
  obtain ⟨hplain, -, -⟩ := ports_agree "program" "box" "+007" hbox
  obtain ⟨hblank, -, -⟩ := ports_agree "program" "box" "7\u2003" hbox
  have hnumeral : Numeral "+007".toList 7 := unsigned?_eq_some_iff.mp rfl
  refine ⟨hbox, (hplain 7).mpr ⟨hserve, hnumeral.bare⟩, hspaced, fun h => ?_⟩
  have hbare : isBlank '\u2003' = false := ((hblank 7).mp h).2 _ (.inr rfl)
  revert hbare
  decide

end PortEcho.CommandLine
