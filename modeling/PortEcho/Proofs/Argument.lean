import Mathlib.Data.Nat.Digits.Defs
import PortEcho.Proofs.Text
import PortEcho.Text.Blank

/-!
What the text of an argument denotes.

A numeral denotes the sum of its digits, each times the power of ten that its place stands for,
whatever its length. Reading it digit by digit finds this number, and refuses every other text.
Trimming leaves the one part of a text that begins and ends with no blank and has only blanks
around it.
-/

namespace PortEcho.Text

/-! ### Numerals -/

/-- The number that decimal digits denote by their places, the last one being the place of ones. -/
def placeValue (ds : List Char) : Nat :=
  Nat.ofDigits 10 (ds.reverse.map fun c => c.toNat - '0'.toNat)

/-- A decimal numeral of `n`: one `+` or none, then one or more ASCII digits. -/
def Numeral (cs : List Char) (n : Nat) : Prop :=
  ∃ ds, (cs = ds ∨ cs = '+' :: ds) ∧ ds ≠ [] ∧ (∀ c ∈ ds, c.isDigit = true) ∧ placeValue ds = n

lemma placeValue_cons (c : Char) (ds : List Char) :
    placeValue (c :: ds) = (c.toNat - '0'.toNat) * 10 ^ ds.length + placeValue ds := by
  simp only [placeValue, List.reverse_cons, List.map_append, List.map_cons, List.map_nil,
    Nat.ofDigits_append, Nat.ofDigits_singleton, List.length_map, List.length_reverse]
  rw [Nat.add_comm, Nat.mul_comm]

lemma digitIn?_ten (c : Char) :
    digitIn? 10 c = if c.isDigit then some (c.toNat - '0'.toNat) else none := by
  have hdigit : c.isDigit = true ↔ '0' ≤ c ∧ c ≤ '9' := by
    simp [Char.isDigit, Char.le_def]
  unfold digitIn? digitValue?
  by_cases h : '0' ≤ c ∧ c ≤ '9'
  · have hle : c.toNat ≤ '9'.toNat := h.2
    have hlt : c.toNat - '0'.toNat < 10 := by
      simp at hle ⊢
      omega
    rw [if_pos h, if_pos (hdigit.mpr h)]
    simpa using hlt
  · rw [if_neg h, if_neg (mt hdigit.mp h)]
    split_ifs <;> simp

/-- Reading on digit by digit adds what the digits denote to what is there, moved to its place. -/
lemma continue?_eq_some_iff {m n : Nat} {cs : List Char} : continue? 10 m cs = some n ↔
    (∀ c ∈ cs, c.isDigit = true) ∧ m * 10 ^ cs.length + placeValue cs = n := by
  -- each digit joins what was read before it, so the induction is over all beginnings
  induction cs generalizing m with
  | nil => simp [placeValue]
  | cons c cs ih =>
    rw [continue?, digitIn?_ten]
    by_cases hc : c.isDigit = true
    · have hplace : (10 * m + (c.toNat - '0'.toNat)) * 10 ^ cs.length + placeValue cs =
          m * 10 ^ (c :: cs).length + placeValue (c :: cs) := by
        rw [placeValue_cons, List.length_cons, Nat.pow_succ]
        ring
      rw [if_pos hc]
      simp only [ih, hplace, List.forall_mem_cons, hc, true_and]
    · simp [hc]

lemma digits?_eq_some_iff {n : Nat} {ds : List Char} : digits? 10 ds = some n ↔
    ds ≠ [] ∧ (∀ c ∈ ds, c.isDigit = true) ∧ placeValue ds = n := by
  rcases ds with _ | ⟨d, ds⟩
  · simp [digits?]
  · simp [digits?, continue?_eq_some_iff]

/-- Exactly the numerals are read, as what they denote. -/
theorem unsigned?_eq_some_iff {n : Nat} {cs : List Char} :
    unsigned? cs = some n ↔ Numeral cs n := by
  unfold unsigned?
  split
  · next ds =>
    rw [digits?_eq_some_iff]
    constructor
    · exact fun h => ⟨ds, .inr rfl, h⟩
    · rintro ⟨es, rfl | hes, h⟩
      · exact absurd (h.2.1 '+' List.mem_cons_self) (by decide)
      · obtain rfl := (List.cons.inj hes).2
        exact h
  · next hsign =>
    rw [digits?_eq_some_iff]
    constructor
    · exact fun h => ⟨cs, .inl rfl, h⟩
    · rintro ⟨ds, rfl | rfl, h⟩
      · exact h
      · exact absurd rfl (hsign ds)

lemma below?_eq_some_iff {bound n : Nat} {cs : List Char} :
    below? bound cs = some n ↔ Numeral cs n ∧ n < bound := by
  rw [below?, Option.filter_eq_some_iff, unsigned?_eq_some_iff, decide_eq_true_eq]

lemma eq_none_of_iff {α : Type} {o : Option α} {p : α → Prop} (h : ∀ x, o = some x ↔ p x)
    (hno : ¬ ∃ x, p x) : o = none :=
  Option.eq_none_iff_forall_ne_some.mpr fun x hx => hno ⟨x, (h x).mp hx⟩

/-- A word is read from a numeral of its value, and every numeral below the bound is one. -/
lemma map_below?_eq_some_iff {α : Type} {bound : Nat} {ofNat : Nat → α} {toNat : α → Nat}
    (hlt : ∀ x, toNat x < bound) (hofNat : ∀ x, ofNat (toNat x) = x)
    (htoNat : ∀ n < bound, toNat (ofNat n) = n) {cs : List Char} {x : α} :
    (below? bound cs).map ofNat = some x ↔ Numeral cs (toNat x) := by
  rw [Option.map_eq_some_iff]
  constructor
  · rintro ⟨n, hn, rfl⟩
    obtain ⟨hnumeral, hbound⟩ := below?_eq_some_iff.mp hn
    rwa [htoNat n hbound]
  · exact fun h => ⟨toNat x, below?_eq_some_iff.mpr ⟨h, hlt x⟩, hofNat x⟩

theorem word16?_eq_some_iff {cs : List Char} {w : UInt16} :
    word16? cs = some w ↔ Numeral cs w.toNat :=
  map_below?_eq_some_iff UInt16.toNat_lt (fun _ => UInt16.ofNat_toNat)
    fun _ h => UInt16.toNat_ofNat_of_lt' h

theorem word32?_eq_some_iff {cs : List Char} {w : UInt32} :
    word32? cs = some w ↔ Numeral cs w.toNat :=
  map_below?_eq_some_iff UInt32.toNat_lt (fun _ => UInt32.ofNat_toNat)
    fun _ h => UInt32.toNat_ofNat_of_lt' h

theorem word64?_eq_some_iff {cs : List Char} {w : UInt64} :
    word64? cs = some w ↔ Numeral cs w.toNat :=
  map_below?_eq_some_iff UInt64.toNat_lt (fun _ => UInt64.ofNat_toNat)
    fun _ h => UInt64.toNat_ofNat_of_lt' h

lemma numeral_toString (n : Nat) : Numeral (toString n).toList n := by
  rw [toList_toString]
  exact unsigned?_eq_some_iff.mp (unsigned?_toDigits n)

/-- There is a sign or a digit at every place of a numeral. -/
lemma Numeral.char {n : Nat} {cs : List Char} (h : Numeral cs n) {c : Char} (hc : c ∈ cs) :
    c = '+' ∨ c.isDigit = true := by
  obtain ⟨ds, rfl | rfl, -, hdigits, -⟩ := h
  · exact .inr (hdigits c hc)
  · exact (List.mem_cons.mp hc).imp_right (hdigits c)

/-- A numeral of digits alone denotes their place value. -/
lemma Numeral.placeValue_eq {n : Nat} {cs : List Char} (h : Numeral cs n)
    (hdigits : ∀ c ∈ cs, c.isDigit = true) : placeValue cs = n := by
  obtain ⟨ds, rfl | rfl, -, -, hvalue⟩ := h
  · exact hvalue
  · exact absurd (hdigits '+' List.mem_cons_self) (by decide)

/-! ### Blanks around a text -/

/-- No blank stands at either end. -/
def Bare (cs : List Char) : Prop :=
  ∀ c, cs.head? = some c ∨ cs.getLast? = some c → isBlank c = false

/-- `core` is what is left of `cs` without the blanks at its two ends. -/
structure Stripped (cs core : List Char) : Prop where
  around : ∃ before after, cs = before ++ core ++ after ∧
    (∀ c ∈ before, isBlank c = true) ∧ ∀ c ∈ after, isBlank c = true
  bare : Bare core

lemma trimStart_append {before : List Char} (h : ∀ c ∈ before, isBlank c = true) (cs : List Char) :
    trimStart (before ++ cs) = trimStart cs := List.dropWhile_append_of_pos h

lemma trimStart_of_head {cs : List Char} (h : ∀ c, cs.head? = some c → isBlank c = false) :
    trimStart cs = cs := by
  cases cs with
  | nil => rfl
  | cons c cs => rw [trimStart_cons, h c rfl, if_neg (by decide)]

/-- Trimming takes the blanks before a text away, and nothing else. -/
lemma exists_trimStart (cs : List Char) : ∃ before, cs = before ++ trimStart cs ∧
    (∀ c ∈ before, isBlank c = true) ∧
      ∀ c, (trimStart cs).head? = some c → isBlank c = false := by
  induction cs with
  | nil => exact ⟨[], by simp⟩
  | cons c cs ih =>
    rw [trimStart_cons]
    by_cases hc : isBlank c = true
    · obtain ⟨before, hcs, hbefore, hhead⟩ := ih
      rw [if_pos hc]
      exact ⟨c :: before, by rw [List.cons_append, ← hcs],
        List.forall_mem_cons.mpr ⟨hc, hbefore⟩, hhead⟩
    · rw [if_neg hc]
      exact ⟨[], by simpa using hc⟩

lemma stripped_trim (cs : List Char) : Stripped cs (trim cs) := by
  obtain ⟨before, hcs, hbefore, hhead⟩ := exists_trimStart cs
  obtain ⟨after, hrev, hafter, hlast⟩ := exists_trimStart (trimStart cs).reverse
  have hstart : trimStart cs = trim cs ++ after.reverse := by
    rw [← List.reverse_reverse (trimStart cs), hrev, List.reverse_append]
    rfl
  refine ⟨⟨before, after.reverse, ?_, hbefore, ?_⟩, ?_⟩
  · rw [List.append_assoc, ← hstart, ← hcs]
  · exact fun c hc => hafter c (List.mem_reverse.mp hc)
  · rintro c (hc | hc)
    · refine hhead c ?_
      rw [hstart, List.head?_append, hc]
      rfl
    · refine hlast c ?_
      rwa [← List.getLast?_reverse]

lemma trim_of_stripped {cs core : List Char} (h : Stripped cs core) : trim cs = core := by
  obtain ⟨⟨before, after, rfl, hbefore, hafter⟩, hbare⟩ := h
  rcases core with _ | ⟨c, core⟩
  · -- nothing but blanks, which the first half of trimming takes away
    have hall : ∀ c ∈ before ++ after, isBlank c = true := fun c hc =>
      (List.mem_append.mp hc).elim (hbefore c) (hafter c)
    have hstart := trimStart_append hall []
    rw [List.append_nil] at hstart
    rw [List.append_nil, trim, hstart]
    rfl
  · have hstart : trimStart (before ++ c :: core ++ after) = c :: core ++ after := by
      rw [List.append_assoc, trimStart_append hbefore]
      exact trimStart_of_head fun d hd => hbare d (.inl hd)
    have hback : ∀ d ∈ after.reverse, isBlank d = true := fun d hd =>
      hafter d (List.mem_reverse.mp hd)
    have hlast : trimStart (c :: core).reverse = (c :: core).reverse :=
      trimStart_of_head fun d hd => hbare d (.inr (List.head?_reverse ▸ hd))
    rw [trim, hstart, trimEnd, List.reverse_append, trimStart_append hback, hlast,
      List.reverse_reverse]

/-- Trimming leaves what is left without the blanks at the two ends, and there is no other such
part. -/
theorem trim_eq_iff {cs core : List Char} : trim cs = core ↔ Stripped cs core := by
  constructor
  · rintro rfl
    exact stripped_trim cs
  · exact trim_of_stripped

lemma Bare.stripped {cs : List Char} (h : Bare cs) : Stripped cs cs :=
  ⟨⟨[], [], by simp⟩, h⟩

lemma Stripped.eq_of_bare {cs core : List Char} (h : Stripped cs core) (hbare : Bare cs) :
    core = cs := by
  rw [← trim_eq_iff.mpr h, trim_eq_iff.mpr hbare.stripped]

lemma isBlank_of_isDigit {c : Char} (h : c.isDigit = true) : isBlank c = false := by
  have hrange : 48 ≤ c.toNat ∧ c.toNat ≤ 57 := by
    simpa [Char.isDigit, UInt32.le_iff_toNat_le] using h
  simp [isBlank, blankRanges]
  omega

lemma bare_of_forall {cs : List Char} (h : ∀ c ∈ cs, isBlank c = false) : Bare cs := by
  rintro c (hc | hc)
  · exact h c (List.mem_of_mem_head? hc)
  · exact h c (List.mem_of_mem_getLast? hc)

lemma Numeral.bare {n : Nat} {cs : List Char} (h : Numeral cs n) : Bare cs := by
  refine bare_of_forall fun c hc => ?_
  rcases h.char hc with rfl | hdigit
  · decide
  · exact isBlank_of_isDigit hdigit

end PortEcho.Text
