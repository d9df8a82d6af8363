import PortEcho.Proofs.Argument
import PortEcho.Responder.Settings

/-!
The argument of a responder.

A responder takes one argument, and it is a port: a numeral, with blanks around it or without. How
many arguments there are is looked at first, and what the port is only if there is just one.
-/

namespace PortEcho.Responder

open Text

/-- `argument` tells a port: without the blanks at its ends it is a numeral of it. -/
def TellsPort (argument : String) (port : UInt16) : Prop :=
  ∃ core, Stripped argument.toList core ∧ Numeral core port.toNat

variable {program argument : String} {port : UInt16}

lemma tellsPort_of_blanks {before after : String} (hbefore : ∀ c ∈ before.toList, isBlank c = true)
    (hafter : ∀ c ∈ after.toList, isBlank c = true) :
    TellsPort (before ++ toString port ++ after) port := by
  have hnumeral : Numeral (toString port).toList port.toNat := numeral_toString _
  refine ⟨_, ⟨⟨before.toList, after.toList, ?_, hbefore, hafter⟩, hnumeral.bare⟩, hnumeral⟩
  rw [String.toList_append, String.toList_append]

/-- Digits tell no port but the one they denote. -/
lemma TellsPort.placeValue_eq (h : TellsPort argument port)
    (hdigits : ∀ c ∈ argument.toList, c.isDigit = true) :
    placeValue argument.toList = port.toNat := by
  obtain ⟨core, hcore, hnumeral⟩ := h
  obtain rfl := hcore.eq_of_bare (bare_of_forall fun c hc => isBlank_of_isDigit (hdigits c hc))
  exact hnumeral.placeValue_eq hdigits

namespace Settings

lemma word16?_trim_eq_some_iff :
    word16? (trim argument.toList) = some port ↔ TellsPort argument port := by
  rw [word16?_eq_some_iff]
  constructor
  · exact fun h => ⟨_, stripped_trim _, h⟩
  · rintro ⟨core, hcore, h⟩
    rwa [trim_eq_iff.mpr hcore]

lemma ofArgs_of_tells (h : TellsPort argument port) : ofArgs [program, argument] = .ok ⟨port⟩ := by
  simp only [ofArgs, List.drop_one, List.tail_cons, word16?_trim_eq_some_iff.mpr h]

lemma ofArgs_of_not (h : ¬ ∃ port, TellsPort argument port) :
    ofArgs [program, argument] = .error (.invalidPort argument) := by
  have hnone := eq_none_of_iff (fun _ => word16?_trim_eq_some_iff) h
  simp only [ofArgs, List.drop_one, List.tail_cons, hnone]

/-- A lone argument is taken for a port, whatever it is. -/
lemma ofArgs_lone (program argument : String) :
    (∃ w, TellsPort argument w ∧ ofArgs [program, argument] = .ok ⟨w⟩) ∨
      (¬ ∃ w, TellsPort argument w) ∧
        ofArgs [program, argument] = .error (.invalidPort argument) := by
  by_cases hport : ∃ w, TellsPort argument w
  · obtain ⟨w, hw⟩ := hport
    exact .inl ⟨w, hw, ofArgs_of_tells hw⟩
  · exact .inr ⟨hport, ofArgs_of_not hport⟩

lemma ofArgs_eq_ok_iff : ofArgs [program, argument] = .ok ⟨port⟩ ↔ TellsPort argument port := by
  refine ⟨fun h => ?_, ofArgs_of_tells⟩
  rcases ofArgs_lone program argument with ⟨w, hw, hok⟩ | ⟨-, herror⟩
  · cases h.symm.trans hok
    exact hw
  · cases h.symm.trans herror

lemma ofArgs_eq_invalidPort_iff {text : String} :
    ofArgs [program, argument] = .error (.invalidPort text) ↔
      text = argument ∧ ¬ ∃ port, TellsPort argument port := by
  constructor
  · intro h
    rcases ofArgs_lone program argument with ⟨w, -, hok⟩ | ⟨hport, herror⟩
    · cases h.symm.trans hok
    · cases h.symm.trans herror
      exact ⟨rfl, hport⟩
  · rintro ⟨rfl, hport⟩
    exact ofArgs_of_not hport

lemma ofArgs_eq_missingPort_iff {args : List String} :
    ofArgs args = .error .missingPort ↔ args.length ≤ 1 := by
  rcases args with _ | ⟨program, _ | ⟨argument, _ | ⟨extra, rest⟩⟩⟩
  · simp [ofArgs]
  · simp [ofArgs]
  · rcases ofArgs_lone program argument with ⟨w, -, h⟩ | ⟨-, h⟩
    all_goals simp [h]
  · simp [ofArgs]

lemma ofArgs_eq_unexpected_iff {args : List String} {extra : String} :
    ofArgs args = .error (.unexpected extra) ↔ args[2]? = some extra := by
  rcases args with _ | ⟨program, _ | ⟨argument, _ | ⟨third, rest⟩⟩⟩
  · simp [ofArgs]
  · simp [ofArgs]
  · rcases ofArgs_lone program argument with ⟨w, -, h⟩ | ⟨-, h⟩
    all_goals simp [h]
  · simp [ofArgs]

/-- **What a responder accepts.** No argument is a missing port, a second one is unexpected whatever
the first one is, and a lone one is accepted if it tells a port and named as it stands if not. So
every port is read back with any blanks around it, and no row of digits is read as any number but
the one it denotes. -/
theorem port_argument :
    (∀ args, ofArgs args = .error .missingPort ↔ args.length ≤ 1) ∧
    (∀ args extra, ofArgs args = .error (.unexpected extra) ↔ args[2]? = some extra) ∧
    (∀ program argument port,
      ofArgs [program, argument] = .ok ⟨port⟩ ↔ TellsPort argument port) ∧
    (∀ program argument text, ofArgs [program, argument] = .error (.invalidPort text) ↔
      text = argument ∧ ¬ ∃ port, TellsPort argument port) ∧
    (∀ program before after (port : UInt16), (∀ c ∈ String.toList before, isBlank c = true) →
      (∀ c ∈ String.toList after, isBlank c = true) →
        ofArgs [program, before ++ toString port ++ after] = .ok ⟨port⟩) ∧
    ∀ program digits port, (∀ c ∈ String.toList digits, c.isDigit = true) →
      ofArgs [program, digits] = .ok ⟨port⟩ → placeValue digits.toList = port.toNat := by
  refine ⟨fun args => ofArgs_eq_missingPort_iff, fun args extra => ofArgs_eq_unexpected_iff,
    fun program argument port => ofArgs_eq_ok_iff,
    fun program argument text => ofArgs_eq_invalidPort_iff, ?_, ?_⟩
  · intro program before after port hbefore hafter
    exact ofArgs_of_tells (tellsPort_of_blanks hbefore hafter)
  · intro program digits port hdigits h
    have hport : TellsPort digits port := ofArgs_eq_ok_iff.mp h
    exact hport.placeValue_eq hdigits

/-- Blanks of other alphabets are blanks too, and zeros may stand in front of a port. -/
theorem port_argument_spaced :
    ofArgs ["responder", " \t65535\u3000"] = .ok ⟨65535⟩ ∧
    ofArgs ["responder", "000000443"] = .ok ⟨443⟩ ∧ placeValue "000000443".toList = 443 := by
  obtain ⟨-, -, -, -, hblanks, hdigits⟩ := port_argument
  have hspaced : " \t65535\u3000" = " \t" ++ toString (65535 : UInt16) ++ "\u3000" := rfl
  have hzeros : ofArgs ["responder", "000000443"] = .ok ⟨443⟩ := by decide
  refine ⟨?_, hzeros, hdigits "responder" "000000443" 443 (List.all_eq_true.mp rfl) hzeros⟩
  rw [hspaced]
  exact hblanks "responder" " \t" "\u3000" 65535 (List.all_eq_true.mp rfl)
    (List.all_eq_true.mp rfl)

end Settings

end PortEcho.Responder
