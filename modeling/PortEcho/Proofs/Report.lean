import PortEcho.Proofs.Endpoint
import PortEcho.Report

/-!
What the line of a report tells.

The stamp may be any text, also one that looks like a line of its own. So a line is read from its
end: the sender begins at the last parenthesis, and before it size and number end each at the last
blank that is left.
-/

namespace PortEcho.Report

open Text

/-- The line, cut where it is read. -/
lemma toList_line (r : Report) : r.line.toList =
    ("['".toList ++ r.stamp.toList ++ "']".toList ++ ' ' :: Nat.toDigits 10 r.number.toNat ++
      ":".toList ++ ' ' :: Nat.toDigits 10 r.size) ++ " bytes ".toList ++
      r.sender.tuple.toList := by
  have hnumber : (toString r.number).toList = Nat.toDigits 10 r.number.toNat :=
    toList_toString r.number.toNat
  have hblank : "'] ".toList = "']".toList ++ [' '] := rfl
  have hcolon : ": ".toList = ":".toList ++ [' '] := rfl
  simp only [line, String.toList_append, hnumber, toList_toString, hblank, hcolon,
    List.append_assoc, List.singleton_append]

/-- **The line of a report determines the report.** -/
theorem line_inj {r r' : Report} : r.line = r'.line ↔ r = r' := by
  constructor
  · intro h
    have hlist : r.line.toList = r'.line.toList := congrArg String.toList h
    have hblank : ∀ n, ' ' ∉ Nat.toDigits 10 n := notMem_toDigits (by decide) (by decide) rfl
    obtain ⟨rest, htuple, hopen⟩ := r.sender.tuple_opens
    obtain ⟨rest', htuple', hopen'⟩ := r'.sender.tuple_opens
    rw [toList_line, toList_line, htuple, htuple'] at hlist
    obtain ⟨hfront, hrest⟩ := (append_cons_inj_of_last hopen hopen').mp hlist
    have hsender : r.sender = r'.sender := by
      apply Endpoint.tuple_inj.mp
      apply String.toList_inj.mp
      rw [htuple, htuple', hrest]
    -- size and number are the last words before the sender and before each other
    obtain ⟨hsize, hsizes⟩ := (append_cons_inj_of_last (hblank _) (hblank _)).mp
      (List.append_cancel_right hfront)
    obtain ⟨hstamp, hnumbers⟩ := (append_cons_inj_of_last (hblank _) (hblank _)).mp
      (List.append_cancel_right hsize)
    have hstamps : r.stamp.toList = r'.stamp.toList :=
      List.append_cancel_left (List.append_cancel_right hstamp)
    rcases r with ⟨stamp, number, size, sender⟩
    rcases r' with ⟨stamp', number', size', sender'⟩
    obtain rfl : stamp = stamp' := String.toList_inj.mp hstamps
    obtain rfl : number = number' := UInt16.toNat_inj.mp (toDigits_inj.mp hnumbers)
    obtain rfl : size = size' := toDigits_inj.mp hsizes
    obtain rfl : sender = sender' := hsender
    rfl
  · exact congrArg line

end PortEcho.Report
