import Mathlib.Data.List.TakeWhile
import PortEcho.Proofs.Argument
import PortEcho.Prober.Settings

/-!
The arguments of a prober, as a grammar.

The first `--interval` and the argument after it are set apart, wherever they stand, and what is
left is two or three positional arguments. `Grammar` says which arguments are accepted and what
they mean, `Flaw` which error each of all others has; one of the two always applies.
-/

namespace PortEcho.Prober

open Text

/-- Arguments taken apart: the interval, if the flag is there, and the positional arguments. -/
inductive Parted : List String → Option UInt64 → List String → Prop
  | whole {ps : List String} (hps : Settings.intervalFlag ∉ ps) : Parted ps none ps
  | pair {front back : List String} {argument : String} {secs : UInt64}
      (hfront : Settings.intervalFlag ∉ front) (hvalue : Numeral argument.toList secs.toNat)
      (hpos : 0 < secs) :
      Parted (front ++ [Settings.intervalFlag, argument] ++ back) (some secs) (front ++ back)

/-- Positional arguments: a host as it stands, a port, and a count. Without a count it is one. -/
inductive Positional : List String → String → UInt16 → UInt32 → Prop
  | two {host port : String} {w : UInt16} (hport : Numeral port.toList w.toNat) :
      Positional [host, port] host w 1
  | three {host port count : String} {w : UInt16} {n : UInt32}
      (hport : Numeral port.toList w.toNat) (hcount : Numeral count.toList n.toNat) :
      Positional [host, port, count] host w n

/-- Arguments, after the program's name, that mean `s`. -/
def Grammar (args : List String) (s : Settings) : Prop :=
  ∃ ps, Parted args s.interval ps ∧ Positional ps s.host s.port s.count

/-- The first thing that is wrong with positional arguments: how many there are, then the port, then
the count. -/
inductive Misplaced : List String → SettingsError → Prop
  | arity {ps : List String} (hlen : ps.length < 2 ∨ 3 < ps.length) :
      Misplaced ps (.arity ps.length)
  | port {host port : String} {more : List String} (hmore : more.length ≤ 1)
      (hport : ¬ ∃ w : UInt16, Numeral port.toList w.toNat) :
      Misplaced (host :: port :: more) (.invalidPort port)
  | count {host port count : String} {w : UInt16} (hport : Numeral port.toList w.toNat)
      (hcount : ¬ ∃ n : UInt32, Numeral count.toList n.toNat) :
      Misplaced [host, port, count] (.invalidCount count)

/-- The first thing that is wrong with arguments: an interval without a value, then a value that is
no interval, then the positional arguments. -/
inductive Flaw : List String → SettingsError → Prop
  | dangling {front : List String} (hfront : Settings.intervalFlag ∉ front) :
      Flaw (front ++ [Settings.intervalFlag]) .missingInterval
  | interval {front back : List String} {argument : String}
      (hfront : Settings.intervalFlag ∉ front)
      (hvalue : ¬ ∃ secs : UInt64, Numeral argument.toList secs.toNat ∧ 0 < secs) :
      Flaw (front ++ [Settings.intervalFlag, argument] ++ back) (.invalidInterval argument)
  | positional {args ps : List String} {interval : Option UInt64} {e : SettingsError}
      (hparted : Parted args interval ps) (hps : Misplaced ps e) : Flaw args e

namespace Settings

variable {args front back ps : List String} {argument : String} {interval : Option UInt64}
  {s : Settings} {e : SettingsError}

/-! ### Single arguments -/

lemma interval?_eq_some_iff {secs : UInt64} :
    interval? argument = some secs ↔ Numeral argument.toList secs.toNat ∧ 0 < secs := by
  rw [interval?, Option.filter_eq_some_iff, word64?_eq_some_iff, decide_eq_true_eq]

lemma portOf_of_numeral {w : UInt16} (h : Numeral argument.toList w.toNat) :
    portOf argument = .ok w := by
  rw [portOf, word16?_eq_some_iff.mpr h]

lemma portOf_of_not (h : ¬ ∃ w : UInt16, Numeral argument.toList w.toNat) :
    portOf argument = .error (.invalidPort argument) := by
  rw [portOf, eq_none_of_iff (fun _ => word16?_eq_some_iff) h]

lemma countOf_of_numeral {n : UInt32} (h : Numeral argument.toList n.toNat) :
    countOf argument = .ok n := by
  rw [countOf, word32?_eq_some_iff.mpr h]

lemma countOf_of_not (h : ¬ ∃ n : UInt32, Numeral argument.toList n.toNat) :
    countOf argument = .error (.invalidCount argument) := by
  rw [countOf, eq_none_of_iff (fun _ => word32?_eq_some_iff) h]

/-! ### Positional arguments -/

lemma ofPositionals_of_positional {host : String} {port : UInt16} {count : UInt32}
    (h : Positional ps host port count) :
    ofPositionals interval ps = .ok ⟨host, port, count, interval⟩ := by
  rcases h with hport | ⟨hport, hcount⟩
  · rw [ofPositionals, portOf_of_numeral hport]
    rfl
  · rw [ofPositionals, portOf_of_numeral hport, countOf_of_numeral hcount]
    rfl

lemma ofPositionals_of_misplaced (h : Misplaced ps e) : ofPositionals interval ps = .error e := by
  rcases h with hlen | ⟨hmore, hport⟩ | ⟨hport, hcount⟩
  · rcases ps with _ | ⟨host, _ | ⟨port, _ | ⟨count, _ | ⟨more, rest⟩⟩⟩⟩
    · rfl
    · rfl
    · simp at hlen
    · simp at hlen
    · rfl
  · next port more =>
    rcases more with _ | ⟨count, _ | ⟨more, rest⟩⟩
    · rw [ofPositionals, portOf_of_not hport]
      rfl
    · rw [ofPositionals, portOf_of_not hport]
      rfl
    · simp at hmore
  · rw [ofPositionals, portOf_of_numeral hport, countOf_of_not hcount]
    rfl

/-- Positional arguments have a meaning, or something is wrong with them. -/
lemma positional_or_misplaced (ps : List String) :
    (∃ host port count, Positional ps host port count) ∨ ∃ e, Misplaced ps e := by
  by_cases hlen : ps.length < 2 ∨ 3 < ps.length
  · exact .inr ⟨_, .arity hlen⟩
  · obtain ⟨host, port, more, rfl, hmore⟩ : ∃ host port more,
        ps = host :: port :: more ∧ more.length ≤ 1 := by
      rcases ps with _ | ⟨host, _ | ⟨port, more⟩⟩
      · simp at hlen
      · simp at hlen
      · exact ⟨host, port, more, rfl, by simp at hlen; omega⟩
    by_cases hport : ∃ w : UInt16, Numeral port.toList w.toNat
    · obtain ⟨w, hw⟩ := hport
      rcases more with _ | ⟨count, _ | ⟨d, ds⟩⟩
      · exact .inl ⟨_, _, _, .two hw⟩
      · by_cases hcount : ∃ n : UInt32, Numeral count.toList n.toNat
        · obtain ⟨n, hn⟩ := hcount
          exact .inl ⟨_, _, _, .three hw hn⟩
        · exact .inr ⟨_, .count hw hcount⟩
      · simp at hmore
    · exact .inr ⟨_, .port hmore hport⟩

/-! ### All arguments -/

lemma ofArgs_whole (hargs : intervalFlag ∉ args.drop 1) :
    ofArgs args = ofPositionals none (args.drop 1) := by
  have hother := forall_ne_of_notMem hargs
  simp only [ofArgs, List.takeWhile_eq_self_iff.mpr hother, List.dropWhile_eq_nil_iff.mpr hother]

lemma ofArgs_dangling (hfront : intervalFlag ∉ front)
    (hargs : args.drop 1 = front ++ [intervalFlag]) : ofArgs args = .error .missingInterval := by
  simp only [ofArgs, hargs, dropWhile_append_cons hfront]

/-- A value after the flag decides, and the arguments around the two are read as if they were not
there. -/
lemma ofArgs_pair (hfront : intervalFlag ∉ front)
    (hargs : args.drop 1 = front ++ [intervalFlag, argument] ++ back) :
    ofArgs args = (interval? argument).elim (.error (.invalidInterval argument))
      fun secs => ofPositionals (some secs) (front ++ back) := by
  have hcut : args.drop 1 = front ++ intervalFlag :: argument :: back := by simp [hargs]
  simp only [ofArgs, hcut, dropWhile_append_cons hfront, takeWhile_append_cons hfront]
  rcases interval? argument with _ | secs <;> rfl

lemma ofArgs_of_parted (h : Parted (args.drop 1) interval ps) :
    ofArgs args = ofPositionals interval ps := by
  generalize hargs : args.drop 1 = given at h
  rcases h with hps | ⟨hfront, hvalue, hpos⟩
  · subst hargs
    exact ofArgs_whole hps
  · rw [ofArgs_pair hfront hargs, interval?_eq_some_iff.mpr ⟨hvalue, hpos⟩]
    rfl

lemma ofArgs_of_grammar (h : Grammar (args.drop 1) s) : ofArgs args = .ok s := by
  obtain ⟨ps, hparted, hps⟩ := h
  rw [ofArgs_of_parted hparted, ofPositionals_of_positional hps]

lemma ofArgs_of_flaw (h : Flaw (args.drop 1) e) : ofArgs args = .error e := by
  generalize hargs : args.drop 1 = given at h
  rcases h with hfront | ⟨hfront, hvalue⟩ | ⟨hparted, hps⟩
  · exact ofArgs_dangling hfront hargs
  · rw [ofArgs_pair hfront hargs, eq_none_of_iff (fun _ => interval?_eq_some_iff) hvalue]
    rfl
  · subst hargs
    rw [ofArgs_of_parted hparted, ofPositionals_of_misplaced hps]

/-- Arguments have a meaning, or something is wrong with them. -/
lemma grammar_or_flaw (args : List String) : (∃ s, Grammar args s) ∨ ∃ e, Flaw args e := by
  have hread : ∀ {interval ps}, Parted args interval ps →
      (∃ s, Grammar args s) ∨ ∃ e, Flaw args e := by
    intro interval ps hparted
    rcases positional_or_misplaced ps with ⟨host, port, count, hps⟩ | ⟨e, hps⟩
    · exact .inl ⟨⟨host, port, count, interval⟩, ps, hparted, hps⟩
    · exact .inr ⟨e, .positional hparted hps⟩
  by_cases hflag : intervalFlag ∈ args
  · obtain ⟨front, rest, rfl, hfront⟩ := List.eq_append_cons_of_mem hflag
    rcases rest with _ | ⟨argument, back⟩
    · exact .inr ⟨_, .dangling hfront⟩
    · have hpair : front ++ intervalFlag :: argument :: back =
          front ++ [intervalFlag, argument] ++ back := by simp
      rw [hpair] at hread ⊢
      by_cases hvalue : ∃ secs : UInt64, Numeral argument.toList secs.toNat ∧ 0 < secs
      · obtain ⟨secs, hsecs, hpos⟩ := hvalue
        exact hread (.pair hfront hsecs hpos)
      · exact .inr ⟨_, .interval hfront hvalue⟩
  · exact hread (.whole hflag)

lemma ofArgs_eq_ok_iff : ofArgs args = .ok s ↔ Grammar (args.drop 1) s := by
  constructor
  · intro h
    rcases grammar_or_flaw (args.drop 1) with ⟨t, ht⟩ | ⟨e, he⟩
    · obtain rfl := Except.ok.inj (h.symm.trans (ofArgs_of_grammar ht))
      exact ht
    · cases h.symm.trans (ofArgs_of_flaw he)
  · exact ofArgs_of_grammar

lemma ofArgs_eq_error_iff : ofArgs args = .error e ↔ Flaw (args.drop 1) e := by
  constructor
  · intro h
    rcases grammar_or_flaw (args.drop 1) with ⟨s, hs⟩ | ⟨f, hf⟩
    · cases h.symm.trans (ofArgs_of_grammar hs)
    · obtain rfl := Except.error.inj (h.symm.trans (ofArgs_of_flaw hf))
      exact hf
  · exact ofArgs_of_flaw

/-! ### Arguments written down -/

/-- The ways to write the host, the port and the count of `s`: a count of one can be left out. -/
def positionalForms (s : Settings) : List (List String) :=
  [s.host, toString s.port, toString s.count] ::
    if s.count = 1 then [[s.host, toString s.port]] else []

/-- The interval of `s` with its flag, if there is one. -/
def pair (s : Settings) : List String :=
  s.interval.elim [] fun secs => [intervalFlag, toString secs]

lemma ne_flag_of_numeral {n : Nat} (h : Numeral argument.toList n) : argument ≠ intervalFlag := by
  rintro rfl
  have hchar := h.char (show '-' ∈ intervalFlag.toList by decide)
  revert hchar
  decide

/-- The flag is neither a port nor a count. -/
lemma notMem_of_positional {host : String} {port : UInt16} {count : UInt32}
    (h : Positional ps host port count) (hhost : host ≠ intervalFlag) : intervalFlag ∉ ps := by
  rcases h with hport | ⟨hport, hcount⟩
  · simp [hhost.symm, (ne_flag_of_numeral hport).symm]
  · simp [hhost.symm, (ne_flag_of_numeral hport).symm, (ne_flag_of_numeral hcount).symm]

lemma positional_of_mem (h : ps ∈ s.positionalForms) :
    Positional ps s.host s.port s.count := by
  have hport : Numeral (toString s.port).toList s.port.toNat := numeral_toString _
  have hcount : Numeral (toString s.count).toList s.count.toNat := numeral_toString _
  rw [positionalForms, List.mem_cons] at h
  rcases h with rfl | h
  · exact .three hport hcount
  · split_ifs at h with hone
    · obtain rfl := List.mem_singleton.mp h
      rw [hone]
      exact .two hport
    · cases h

/-- Settings written down in any form, with the interval anywhere in it, mean these settings. -/
lemma grammar_of_forms (hhost : s.host ≠ intervalFlag) (hinterval : s.interval ≠ some 0)
    (hform : front ++ back ∈ s.positionalForms) : Grammar (front ++ s.pair ++ back) s := by
  have hps := positional_of_mem hform
  have hflag := notMem_of_positional hps hhost
  refine ⟨front ++ back, ?_, hps⟩
  rcases hs : s.interval with _ | secs
  · rw [pair, hs, Option.elim_none, List.append_nil]
    exact .whole hflag
  · have hpos : 0 < secs := UInt64.pos_iff_ne_zero.mpr fun hzero => hinterval (hzero ▸ hs)
    rw [pair, hs, Option.elim_some]
    exact .pair (fun h => hflag (List.mem_append_left _ h)) (numeral_toString _) hpos

/-- **The grammar of a prober's arguments.** Exactly the arguments of the grammar are accepted, as
what they mean, and all others are refused for the first thing that is wrong with them. So settings
are read back from their text wherever the interval stands in it, and as long as no positional
argument is the flag itself, not even an error tells where the interval stood. -/
theorem arguments_grammar :
    (∀ args s, ofArgs args = .ok s ↔ Grammar (args.drop 1) s) ∧
    (∀ args e, ofArgs args = .error e ↔ Flaw (args.drop 1) e) ∧
    (∀ program (s : Settings) front back, s.host ≠ intervalFlag → s.interval ≠ some 0 →
      front ++ back ∈ s.positionalForms →
        ofArgs (program :: (front ++ s.pair ++ back)) = .ok s) ∧
    ∀ program argument front back front' back', intervalFlag ∉ front ++ back →
      front ++ back = front' ++ back' →
        ofArgs (program :: (front ++ [intervalFlag, argument] ++ back)) =
          ofArgs (program :: (front' ++ [intervalFlag, argument] ++ back')) := by
  refine ⟨fun args s => ofArgs_eq_ok_iff, fun args e => ofArgs_eq_error_iff, ?_, ?_⟩
  · intro program s front back hhost hinterval hform
    exact ofArgs_of_grammar (grammar_of_forms hhost hinterval hform)
  · intro program argument front back front' back' hflag hsame
    have hfront : intervalFlag ∉ front := fun h => hflag (List.mem_append_left _ h)
    have hfront' : intervalFlag ∉ front' := fun h => hflag (hsame ▸ List.mem_append_left _ h)
    rw [ofArgs_pair hfront rfl, ofArgs_pair hfront' rfl, hsame]

/-- An interval between port and count is read back, and one without seconds is refused alike
before and behind a lone host. -/
theorem arguments_grammar_between :
    ofArgs ["prober", "box", "53", "--interval", "30", "4"] = .ok ⟨"box", 53, 4, some 30⟩ ∧
    ofArgs ["prober", "--interval", "0", "box"] = ofArgs ["prober", "box", "--interval", "0"] := by
  obtain ⟨-, -, hread, hplace⟩ := arguments_grammar
  exact ⟨hread "prober" ⟨"box", 53, 4, some 30⟩ ["box", "53"] ["4"] (by decide) (by decide)
    (by decide), hplace "prober" "0" [] ["box"] ["box"] [] (by decide) rfl⟩

/-- Only the first flag is one: a second may be the host. -/
example : ofArgs ["prober", "--interval", "5", "--interval", "80"] =
    .ok ⟨"--interval", 80, 1, some 5⟩ := by decide

end Settings

end PortEcho.Prober
