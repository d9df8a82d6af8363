import Mathlib.Data.List.Basic
import PortEcho.Text.Numeral
import PortEcho.Text.Split

/-!
Texts that read back.

A number is read back from its numeral, parts are read back from the text that joins them by a
separator, and a text is cut in one way only at the first or the last occurrence of a character.
-/

namespace PortEcho.Text

variable {base n : Nat}

lemma digitIn?_digitChar (hbase : base ≤ 16) {d : Nat} (hd : d < base) :
    digitIn? base (Nat.digitChar d) = some d := by
  have hvalue : ∀ d < 16, digitValue? (Nat.digitChar d) = some d := by decide
  rw [digitIn?, hvalue d (by omega)]
  simpa using hd

/-- The digits of a number denote it. -/
lemma continue?_toDigits (hone : 1 < base) (hbase : base ≤ 16) (n : Nat) :
    continue? base 0 (Nat.toDigits base n) = some n := by
  -- the last digit is the remainder, the ones before it denote the quotient
  induction n using Nat.strongRecOn with
  | ind n ih =>
    rcases Nat.lt_or_ge n base with hlt | hle
    · rw [Nat.toDigits_of_lt_base hlt]
      simp [continue?, digitIn?_digitChar hbase hlt]
    · have hsmall : n % base < base := Nat.mod_lt _ (by omega)
      have hless : n / base < n := Nat.div_lt_self (by omega) hone
      rw [Nat.toDigits_of_base_le hone hle, continue?_append, ih _ hless]
      simp [continue?, digitIn?_digitChar hbase hsmall, Nat.div_add_mod]

/-- A numeral reads back. -/
theorem digits?_toDigits (hone : 1 < base) (hbase : base ≤ 16) (n : Nat) :
    digits? base (Nat.toDigits base n) = some n := by
  have hne : (Nat.toDigits base n).isEmpty = false := by simp
  rw [digits?, hne]
  exact continue?_toDigits hone hbase n

/-- There are only digits in a numeral. -/
lemma digitIn?_of_mem_toDigits (hone : 1 < base) (hbase : base ≤ 16) {c : Char}
    (h : c ∈ Nat.toDigits base n) : ∃ d, digitIn? base c = some d := by
  induction n using Nat.strongRecOn with
  | ind n ih =>
    rcases Nat.lt_or_ge n base with hlt | hle
    · rw [Nat.toDigits_of_lt_base hlt, List.mem_singleton] at h
      exact ⟨n, h ▸ digitIn?_digitChar hbase hlt⟩
    · rw [Nat.toDigits_of_base_le hone hle, List.mem_append, List.mem_singleton] at h
      rcases h with h | rfl
      · exact ih _ (Nat.div_lt_self (by omega) hone) h
      · exact ⟨_, digitIn?_digitChar hbase (Nat.mod_lt _ (by omega))⟩

lemma notMem_toDigits (hone : 1 < base) (hbase : base ≤ 16) {c : Char}
    (h : digitValue? c = none) (n : Nat) : c ∉ Nat.toDigits base n := by
  intro hc
  obtain ⟨d, hd⟩ := digitIn?_of_mem_toDigits hone hbase hc
  rw [digitIn?, h] at hd
  cases hd

lemma toList_toString (n : Nat) : (toString n).toList = Nat.toDigits 10 n := Nat.toList_repr

lemma toDigits_inj {m n : Nat} : Nat.toDigits 10 m = Nat.toDigits 10 n ↔ m = n := by
  constructor
  · intro h
    have hread : digits? 10 (Nat.toDigits 10 m) = digits? 10 (Nat.toDigits 10 n) := by rw [h]
    rw [digits?_toDigits (by decide) (by decide), digits?_toDigits (by decide) (by decide)] at hread
    exact Option.some.inj hread
  · exact congrArg _

lemma unsigned?_of_notMem {cs : List Char} (h : '+' ∉ cs) : unsigned? cs = digits? 10 cs := by
  unfold unsigned?
  split
  · exact absurd List.mem_cons_self h
  · rfl

lemma unsigned?_toDigits (n : Nat) : unsigned? (Nat.toDigits 10 n) = some n := by
  rw [unsigned?_of_notMem (notMem_toDigits (by decide) (by decide) rfl n)]
  exact digits?_toDigits (by decide) (by decide) n

lemma below?_toDigits {bound : Nat} (h : n < bound) :
    below? bound (Nat.toDigits 10 n) = some n := by
  rw [below?, unsigned?_toDigits]
  simpa using h

lemma word16?_toDigits (n : UInt16) : word16? (Nat.toDigits 10 n.toNat) = some n := by
  rw [word16?, below?_toDigits n.toNat_lt]
  simp

/-- Numbers below one hundred have two digits. -/
lemma toList_twoDigits (h : n < 100) :
    (twoDigits n).toList = [Nat.digitChar (n / 10), Nat.digitChar (n % 10)] := by
  unfold twoDigits
  by_cases hn : n < 10
  · have hzero : "0".toList = [Nat.digitChar 0] := rfl
    rw [if_pos hn, String.toList_append, toList_toString, hzero, Nat.toDigits_of_lt_base hn,
      Nat.div_eq_of_lt hn, Nat.mod_eq_of_lt hn]
    rfl
  · have htens : n / 10 < 10 := by omega
    rw [if_neg hn, toList_toString, Nat.toDigits_of_base_le (by decide) (by omega),
      Nat.toDigits_of_lt_base htens]
    rfl

lemma digits?_twoDigits (h : n < 100) :
    digits? 10 [Nat.digitChar (n / 10), Nat.digitChar (n % 10)] = some n := by
  have htens : digitIn? 10 (Nat.digitChar (n / 10)) = some (n / 10) :=
    digitIn?_digitChar (by decide) (by omega)
  have hones : digitIn? 10 (Nat.digitChar (n % 10)) = some (n % 10) :=
    digitIn?_digitChar (by decide) (by omega)
  simp only [digits?, List.isEmpty_cons, Bool.false_eq_true, if_false, continue?, htens, hones]
  congr 1
  omega

lemma notMem_twoDigits {c : Char} (hc : digitValue? c = none) (h : n < 100) :
    c ∉ (twoDigits n).toList := by
  have hdigit : ∀ d < 10, Nat.digitChar d ≠ c := by
    intro d hd heq
    have hread : digitIn? 10 (Nat.digitChar d) = some d := digitIn?_digitChar (by decide) hd
    rw [digitIn?, heq, hc] at hread
    cases hread
  rw [toList_twoDigits h]
  simp only [List.mem_cons, List.not_mem_nil, or_false, not_or]
  exact ⟨(hdigit _ (by omega)).symm, (hdigit _ (by omega)).symm⟩

section first

variable {α : Type} [DecidableEq α] {a : α} {xs : List α}

lemma forall_ne_of_notMem (h : a ∉ xs) : ∀ x ∈ xs, decide (x ≠ a) = true := fun _ hx =>
  decide_eq_true (ne_of_mem_of_not_mem hx h)

/-- What stands before the first occurrence. -/
lemma takeWhile_append_cons (h : a ∉ xs) (ys : List α) :
    (xs ++ a :: ys).takeWhile (· ≠ a) = xs := by
  rw [List.takeWhile_append_of_pos (forall_ne_of_notMem h)]
  simp

/-- What stands from the first occurrence on. -/
lemma dropWhile_append_cons (h : a ∉ xs) (ys : List α) :
    (xs ++ a :: ys).dropWhile (· ≠ a) = a :: ys := by
  rw [List.dropWhile_append_of_pos (forall_ne_of_notMem h)]
  simp

end first

section separators

variable {sep : Char} {part rest : List Char} {parts : List (List Char)}

lemma splitAt_append (h : sep ∉ part) :
    splitAt sep (part ++ sep :: rest) = part :: splitAt sep rest := by
  induction part with
  | nil => simp [splitAt]
  | cons c cs ih =>
    rw [List.mem_cons, not_or] at h
    rw [List.cons_append, splitAt, if_neg (Ne.symm h.1), ih h.2]

lemma splitAt_of_notMem (h : sep ∉ part) : splitAt sep part = [part] := by
  induction part with
  | nil => rfl
  | cons c cs ih =>
    rw [List.mem_cons, not_or] at h
    rw [splitAt, if_neg (Ne.symm h.1), ih h.2]

lemma intercalate_cons_cons (p q : List Char) (ps : List (List Char)) :
    [sep].intercalate (p :: q :: ps) = p ++ sep :: [sep].intercalate (q :: ps) := by
  simp [List.intercalate]

lemma eq_or_mem_of_mem_intercalate {c : Char} (h : c ∈ [sep].intercalate parts) :
    c = sep ∨ ∃ p ∈ parts, c ∈ p := by
  induction parts with
  | nil => simp [List.intercalate] at h
  | cons p ps ih =>
    rcases ps with _ | ⟨q, qs⟩
    · rw [List.intercalate_singleton] at h
      exact .inr ⟨p, by simp, h⟩
    · rw [intercalate_cons_cons, List.mem_append, List.mem_cons] at h
      rcases h with h | rfl | h
      · exact .inr ⟨p, by simp, h⟩
      · exact .inl rfl
      · rcases ih h with heq | ⟨x, hx, hc⟩
        · exact .inl heq
        · exact .inr ⟨x, List.mem_cons_of_mem _ hx, hc⟩

/-- Parts that are joined by a separator are cut apart there. -/
theorem splitAt_intercalate (hne : parts ≠ []) (h : ∀ p ∈ parts, sep ∉ p) :
    splitAt sep ([sep].intercalate parts) = parts := by
  induction parts with
  | nil => exact absurd rfl hne
  | cons p ps ih =>
    obtain ⟨hp, hps⟩ := List.forall_mem_cons.mp h
    rcases ps with _ | ⟨q, qs⟩
    · rw [List.intercalate_singleton]
      exact splitAt_of_notMem hp
    · rw [intercalate_cons_cons, splitAt_append hp, ih (by simp) hps]

/-- Lines that each end with the separator are cut apart, with nothing after the last. -/
lemma splitAt_flatMap (h : ∀ p ∈ parts, sep ∉ p) :
    splitAt sep (parts.flatMap (· ++ [sep])) = parts ++ [[]] := by
  induction parts with
  | nil => rfl
  | cons p ps ih =>
    obtain ⟨hp, hps⟩ := List.forall_mem_cons.mp h
    rw [List.flatMap_cons, List.append_assoc, List.singleton_append, splitAt_append hp, ih hps]
    rfl

/-- A text is cut after a front that the first character of the separator is not in. -/
lemma cut?_append {c : Char} {front : List Char} (sep : List Char) (hsep : sep.head? = some c)
    (h : c ∉ front) (back : List Char) : cut? sep (front ++ sep ++ back) = some (front, back) := by
  obtain ⟨cs, rfl⟩ := List.head?_eq_some_iff.mp hsep
  refine cut?_eq_some_iff.mpr ⟨rfl, fun i hi hpre => ?_⟩
  rw [List.append_assoc, List.drop_append_of_le_length (Nat.le_of_lt hi),
    List.drop_eq_getElem_cons hi] at hpre
  obtain ⟨rest, hrest⟩ := hpre
  have hc : c = front[i] := (List.cons.inj hrest).1
  exact h (hc ▸ List.getElem_mem hi)

lemma splitAtPair?_append (h : sep ∉ part) :
    splitAtPair? sep (part ++ rest) =
      (splitAtPair? sep rest).map fun (front, back) => (part ++ front, back) := by
  induction part with
  | nil => simp
  | cons c cs ih =>
    rw [List.mem_cons, not_or] at h
    have hc : ¬ c = sep := Ne.symm h.1
    rcases hcs : cs ++ rest with _ | ⟨d, ds⟩
    · obtain ⟨rfl, rfl⟩ := List.append_eq_nil_iff.mp hcs
      rfl
    · rw [List.cons_append, hcs, splitAtPair?, if_neg (by simp [hc]), ← hcs, ih h.2, Option.map_map]
      rfl

/-- No two separators stand in a row between parts that are not empty. -/
lemma splitAtPair?_intercalate (h : ∀ p ∈ parts, p ≠ [] ∧ sep ∉ p) (rest : List Char) :
    splitAtPair? sep ([sep].intercalate parts ++ rest) =
      (splitAtPair? sep rest).map fun (front, back) =>
        ([sep].intercalate parts ++ front, back) := by
  induction parts with
  | nil => simp [List.intercalate]
  | cons p ps ih =>
    obtain ⟨⟨-, hp⟩, hps⟩ := List.forall_mem_cons.mp h
    rcases ps with _ | ⟨q, qs⟩
    · rw [List.intercalate_singleton]
      exact splitAtPair?_append hp
    · obtain ⟨⟨hq, hsep⟩, -⟩ := List.forall_mem_cons.mp hps
      obtain ⟨c, cs, rfl⟩ := List.exists_cons_of_ne_nil hq
      have hc : ¬ c = sep := by
        rintro rfl
        exact hsep List.mem_cons_self
      -- a single separator is passed over
      have hstep : ∀ t : List Char, splitAtPair? sep (sep :: c :: t) =
          (splitAtPair? sep (c :: t)).map fun (front, back) => (sep :: front, back) := by
        intro t
        rw [splitAtPair?, if_neg (by simp [hc])]
      obtain ⟨t, ht⟩ : ∃ t, [sep].intercalate ((c :: cs) :: qs) = c :: t := by
        rcases qs with _ | ⟨r, rs⟩
        · exact ⟨cs, List.intercalate_singleton⟩
        · exact ⟨_, intercalate_cons_cons ..⟩
      have hnext := ih hps
      rw [ht, List.cons_append] at hnext
      rw [intercalate_cons_cons, ht, List.append_assoc, splitAtPair?_append hp, List.cons_append,
        List.cons_append, hstep, hnext, Option.map_map, Option.map_map]
      rcases splitAtPair? sep rest with _ | ⟨front, back⟩
      · rfl
      · simp

/-- A text is cut in one way only at the first occurrence of a character. -/
lemma append_cons_inj_of_first {c : Char} {xs ys us vs : List Char} (hx : c ∉ xs) (hy : c ∉ ys) :
    xs ++ c :: us = ys ++ c :: vs ↔ xs = ys ∧ us = vs := by
  constructor
  · intro h
    have hxs : xs = ys := by rw [← takeWhile_append_cons hx, h, takeWhile_append_cons hy]
    subst hxs
    exact ⟨rfl, (List.cons.inj (List.append_cancel_left h)).2⟩
  · rintro ⟨rfl, rfl⟩
    rfl

/-- A text is cut in one way only at the last occurrence of a character. -/
lemma append_cons_inj_of_last {c : Char} {xs ys us vs : List Char} (hu : c ∉ us) (hv : c ∉ vs) :
    xs ++ c :: us = ys ++ c :: vs ↔ xs = ys ∧ us = vs := by
  have hrev : us.reverse ++ c :: xs.reverse = vs.reverse ++ c :: ys.reverse ↔
      us.reverse = vs.reverse ∧ xs.reverse = ys.reverse :=
    append_cons_inj_of_first (mt List.mem_reverse.mp hu) (mt List.mem_reverse.mp hv)
  rw [← List.reverse_inj, List.reverse_append, List.reverse_append, List.reverse_cons,
    List.reverse_cons, List.append_assoc, List.append_assoc]
  simp only [List.singleton_append]
  rw [hrev, List.reverse_inj, List.reverse_inj, and_comm]

end separators

end PortEcho.Text
