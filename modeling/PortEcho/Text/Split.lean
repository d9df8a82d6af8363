/-!
Texts cut at every occurrence of a separator, or at the first of two in a row or of a text.
-/

namespace PortEcho.Text

/-- The parts of a text between occurrences of `sep`. There is always one. -/
def splitAt (sep : Char) : List Char → List (List Char)
  | [] => [[]]
  | c :: cs =>
    if c = sep then [] :: splitAt sep cs
    else
      match splitAt sep cs with
      | [] => [[c]]
      | part :: parts => (c :: part) :: parts

/-- What stands before and after the first occurrence of two `sep` in a row. -/
def splitAtPair? (sep : Char) : List Char → Option (List Char × List Char)
  | c :: d :: cs =>
    if c = sep ∧ d = sep then some ([], cs)
    else (splitAtPair? sep (d :: cs)).map fun (front, back) => (c :: front, back)
  | _ => none

/-- What stands before and after the first occurrence of the text `sep`. -/
def cut? (sep : List Char) : List Char → Option (List Char × List Char)
  | [] => if sep.isEmpty then some ([], []) else none
  | c :: cs =>
    if sep.isPrefixOf (c :: cs) then some ([], (c :: cs).drop sep.length)
    else (cut? sep cs).map fun (front, back) => (c :: front, back)

/-- `cut?` cuts where `sep` stands first. -/
theorem cut?_eq_some_iff {sep cs front back : List Char} :
    cut? sep cs = some (front, back) ↔
      cs = front ++ sep ++ back ∧ ∀ i, i < front.length → ¬ sep <+: cs.drop i := by
  induction cs generalizing front with
  | nil =>
    constructor
    · intro h
      unfold cut? at h
      split at h
      · next hsep =>
        obtain ⟨rfl, rfl⟩ := Prod.mk.inj (Option.some.inj h)
        exact ⟨by simpa using hsep.symm, by simp⟩
      · cases h
    · rintro ⟨h, -⟩
      simp only [List.nil_eq, List.append_eq_nil_iff] at h
      obtain ⟨⟨rfl, rfl⟩, rfl⟩ := h
      rfl
  | cons c cs ih =>
    by_cases hp : sep <+: c :: cs
    · rw [cut?, if_pos (List.isPrefixOf_iff_prefix.mpr hp)]
      constructor
      · intro h
        obtain ⟨rfl, rfl⟩ := Prod.mk.inj (Option.some.inj h)
        exact ⟨(List.prefix_iff_eq_append.mp hp).symm, by simp⟩
      · rintro ⟨h, hfirst⟩
        cases front with
        | nil => simp [h]
        | cons a front => exact absurd hp (hfirst 0 (by simp))
    · rw [cut?, if_neg (mt List.isPrefixOf_iff_prefix.mp hp)]
      constructor
      · intro h
        obtain ⟨⟨front, back⟩, hcut, hpair⟩ := Option.map_eq_some_iff.mp h
        obtain ⟨rfl, rfl⟩ := Prod.mk.inj hpair
        obtain ⟨rfl, hfirst⟩ := ih.mp hcut
        refine ⟨rfl, fun i hi => ?_⟩
        cases i with
        | zero => exact hp
        | succ i => exact hfirst i (Nat.lt_of_succ_lt_succ hi)
      · rintro ⟨h, hfirst⟩
        cases front with
        | nil => exact absurd ⟨back, h.symm⟩ hp
        | cons a front =>
          obtain ⟨rfl, hcs⟩ := List.cons.inj h
          have hcut := ih.mpr ⟨hcs, fun i hi => hfirst (i + 1) (Nat.succ_lt_succ hi)⟩
          rw [hcut]
          rfl

end PortEcho.Text
