import Mathlib.Data.List.Basic
import PortEcho.Endpoint.Lookup

/-!
Which of several endpoints is chosen.

The first of the fourth version is, wherever it stands. Only if there is none does it matter what
else there is, and then the first of all is chosen. So endpoints of the sixth version, mapped
addresses among them, may come and go as long as there is one of the fourth.
-/

namespace PortEcho.Endpoint

/-- The endpoint has an address of the sixth version, mapped or not. -/
def IsV6 (e : Endpoint) : Prop := ∃ ip port flow scope, e = .v6 ip port flow scope

/-- Which of some endpoints is preferred. -/
inductive Preferred : List Endpoint → Endpoint → Prop
  /-- The first of the fourth version. -/
  | fourth {front : List Endpoint} (ip : IPv4) (port : UInt16) (back : List Endpoint)
      (h : ∀ e ∈ front, e.IsV6) : Preferred (front ++ .v4 ip port :: back) (.v4 ip port)
  /-- The first of all, where there are none of the fourth version. -/
  | first {e : Endpoint} {es : List Endpoint} (h : ∀ x ∈ e :: es, x.IsV6) :
      Preferred (e :: es) e

variable {e : Endpoint} {es : List Endpoint}

lemma isV6_iff : e.IsV6 ↔ ¬ e.isV4 := by
  rcases e with ⟨ip, port⟩ | ⟨ip, port, flow, scope⟩
  · simp [IsV6, isV4]
  · simp [IsV6, isV4]

lemma exists_of_isV4 (h : e.isV4) : ∃ ip port, e = .v4 ip port := by
  rcases e with ⟨ip, port⟩ | ⟨ip, port, flow, scope⟩
  · exact ⟨ip, port, rfl⟩
  · cases h

/-- What is chosen is the first of those of the fourth version, or else the first of all. -/
lemma choose_eq (es : List Endpoint) :
    choose es = ((es.filter (·.isV4)).head?).or es.head? := by
  unfold choose
  rw [List.head?_filter]
  rcases hf : es.find? (·.isV4) with _ | e
  · simp only [hf, Option.none_or]
  · simp only [hf, Option.some_or]

lemma choose_eq_none_iff : choose es = none ↔ es = [] := by
  rw [choose_eq, Option.or_eq_none_iff, List.head?_eq_none_iff, List.head?_eq_none_iff]
  constructor
  · exact And.right
  · rintro rfl
    exact ⟨rfl, rfl⟩

lemma filter_ne_nil (h : ∃ e ∈ es, e.isV4) : es.filter (·.isV4) ≠ [] := by
  obtain ⟨e, he, h4⟩ := h
  exact List.ne_nil_of_mem (List.mem_filter.mpr ⟨he, h4⟩)

/-- With one of the fourth version there, nothing but those of the fourth version counts. -/
lemma choose_of_isV4 (h : ∃ e ∈ es, e.isV4) : choose es = (es.filter (·.isV4)).head? := by
  obtain ⟨e, rest, hfilter⟩ := List.exists_cons_of_ne_nil (filter_ne_nil h)
  rw [choose_eq, hfilter]
  rfl

lemma choose_of_forall (h : ∀ e ∈ es, ¬ e.isV4) : choose es = es.head? := by
  rw [choose_eq, List.filter_eq_nil_iff.mpr h]
  rfl

lemma mem_of_choose (h : choose es = some e) : e ∈ es := by
  by_cases h4 : ∃ x ∈ es, x.isV4
  · rw [choose_of_isV4 h4] at h
    exact List.mem_of_mem_filter (List.mem_of_mem_head? h)
  · rw [choose_of_forall (by simpa using h4)] at h
    exact List.mem_of_mem_head? h

lemma choose_of_preferred (h : Preferred es e) : choose es = some e := by
  cases h with
  | @fourth front ip port back h =>
    have hfront : front.filter (·.isV4) = [] :=
      List.filter_eq_nil_iff.mpr fun x hx => isV6_iff.mp (h x hx)
    rw [choose_eq, List.filter_append, hfront]
    rfl
  | first h =>
    rw [choose_of_forall fun x hx => isV6_iff.mp (h x hx)]
    rfl

/-- Unless there is nothing to choose from, one endpoint is preferred. -/
lemma exists_preferred (hne : es ≠ []) : ∃ e, Preferred es e := by
  rcases hf : es.find? (·.isV4) with _ | e
  · obtain ⟨e, rest, rfl⟩ := List.exists_cons_of_ne_nil hne
    exact ⟨e, .first fun x hx => isV6_iff.mpr (List.find?_eq_none.mp hf x hx)⟩
  · obtain ⟨h4, front, back, rfl, hfront⟩ := List.find?_eq_some_iff_append.mp hf
    obtain ⟨ip, port, rfl⟩ := exists_of_isV4 h4
    exact ⟨_, .fourth ip port back fun x hx => isV6_iff.mpr (by simpa using hfront x hx)⟩

lemma choose_eq_some_iff : choose es = some e ↔ Preferred es e := by
  refine ⟨fun h => ?_, choose_of_preferred⟩
  have hne : es ≠ [] := by
    rintro rfl
    cases h
  obtain ⟨x, hx⟩ := exists_preferred hne
  rw [choose_of_preferred hx] at h
  exact Option.some.inj h ▸ hx

lemma choose_append_of_isV4 (h : ∃ e ∈ es, e.isV4) (more : List Endpoint) :
    choose (es ++ more) = choose es := by
  have hmore : ∃ e ∈ es ++ more, e.isV4 := by
    obtain ⟨e, he, h4⟩ := h
    exact ⟨e, List.mem_append_left _ he, h4⟩
  rw [choose_of_isV4 h, choose_of_isV4 hmore, List.filter_append,
    List.head?_append_of_ne_nil _ (filter_ne_nil h)]

/-- The choice from two lists, one after the other, is that from the first if it is of the fourth
version, or if it is all there is to prefer. -/
lemma choose_append (es more : List Endpoint) :
    choose (es ++ more) =
      if (∃ e ∈ choose es, e.isV4) ∨ es ≠ [] ∧ ∀ e ∈ more, ¬ e.isV4 then choose es
      else choose more := by
  by_cases h4 : ∃ e ∈ es, e.isV4
  · have hchosen : ∃ e ∈ choose es, e.isV4 := by
      obtain ⟨e, rest, hfilter⟩ := List.exists_cons_of_ne_nil (filter_ne_nil h4)
      have he : e ∈ es.filter (·.isV4) := hfilter ▸ List.mem_cons_self
      exact ⟨e, by rw [choose_of_isV4 h4, hfilter]; rfl, (List.mem_filter.mp he).2⟩
    rw [choose_append_of_isV4 h4, if_pos (.inl hchosen)]
  · have hes : ∀ e ∈ es, ¬ e.isV4 := by simpa using h4
    have hchosen : ¬ ∃ e ∈ choose es, e.isV4 := by
      rintro ⟨e, he, hv⟩
      exact hes e (mem_of_choose he) hv
    have hfilter : (es ++ more).filter (·.isV4) = more.filter (·.isV4) := by
      rw [List.filter_append, List.filter_eq_nil_iff.mpr hes, List.nil_append]
    by_cases hmore : ∃ e ∈ more, e.isV4
    · have hnot : ¬ ∀ e ∈ more, ¬ e.isV4 := by simpa using hmore
      have happend : ∃ e ∈ es ++ more, e.isV4 := by
        obtain ⟨e, he, hv⟩ := hmore
        exact ⟨e, List.mem_append_right _ he, hv⟩
      rw [choose_of_isV4 happend, hfilter, ← choose_of_isV4 hmore,
        if_neg (not_or.mpr ⟨hchosen, fun h => hnot h.2⟩)]
    · have hnone : ∀ e ∈ more, ¬ e.isV4 := by simpa using hmore
      rw [choose_eq, hfilter, List.filter_eq_nil_iff.mpr hnone]
      rcases es with _ | ⟨e, es⟩
      · rw [if_neg (by simp [choose]), choose_of_forall hnone]
        rfl
      · rw [if_pos (.inr ⟨List.cons_ne_nil _ _, hnone⟩), choose_of_forall hes]
        rfl

/-- **Choice.** Something is chosen from all but nothing, namely the first endpoint of the fourth
version or else the first of all. With one of the fourth version there, those of the sixth may come
and go anywhere and anything may follow; and what is chosen from two lists is chosen from one of
them. -/
theorem choose_preferred (es : List Endpoint) :
    (choose es = none ↔ es = []) ∧
    (∀ e, choose es = some e ↔ Preferred es e) ∧ (∀ e, Preferred es e → e ∈ es) ∧
    (∀ fs : List Endpoint, (∃ e ∈ es, e.isV4) →
      fs.filter (·.isV4) = es.filter (·.isV4) → choose fs = choose es) ∧
    (∀ more, (∃ e ∈ es, e.isV4) → choose (es ++ more) = choose es) ∧
    ∀ more, choose (es ++ more) =
      if (∃ e ∈ choose es, e.isV4) ∨ es ≠ [] ∧ ∀ e ∈ more, ¬ e.isV4 then choose es
      else choose more := by
  refine ⟨choose_eq_none_iff, fun _ => choose_eq_some_iff,
    fun e h => mem_of_choose (choose_of_preferred h), fun fs h hsame => ?_,
    fun more h => choose_append_of_isV4 h more, choose_append es⟩
  have hfs : ∃ e ∈ fs, e.isV4 := by
    obtain ⟨e, he, h4⟩ := h
    have hmem : e ∈ fs.filter (·.isV4) := hsame ▸ List.mem_filter.mpr ⟨he, h4⟩
    exact ⟨e, List.mem_filter.mp hmem⟩
  rw [choose_of_isV4 h, choose_of_isV4 hfs, hsame]

/-- A mapped address is passed over for one of the fourth version that comes later, and is chosen
where there is none. -/
theorem choose_preferred_mapped :
    let mapped : Endpoint := .v6 ⟨#v[0, 0, 0, 0, 0, 0xffff, 0x7f00, 1]⟩ 7 0 0
    let plain : Endpoint := .v4 .wildcard 7
    mapped.unmapped = .v4 .loopback 7 ∧
      choose [mapped, .v6 .loopback 7 0 0] = some mapped ∧
      Preferred [mapped, plain, .v4 .loopback 7] plain ∧
      choose [plain, mapped, .v4 .loopback 7] = some plain ∧
      choose ([mapped] ++ [plain, mapped]) = choose [plain, mapped] := by
  intro mapped plain
  have hchosen : choose [mapped, plain, .v4 .loopback 7] = some plain := rfl
  have hsame := (choose_preferred [mapped, plain, .v4 .loopback 7]).2.2.2.1
    [plain, mapped, .v4 .loopback 7] ⟨plain, by simp, rfl⟩ rfl
  have happend := (choose_preferred [mapped]).2.2.2.2.2 [plain, mapped]
  refine ⟨by decide, ?_, ?_, hsame.trans hchosen, ?_⟩
  · exact ((choose_preferred [mapped, .v6 .loopback 7 0 0]).2.1 mapped).mpr
      (.first fun x hx => by
        rcases List.mem_cons.mp hx with rfl | hx
        · exact ⟨_, _, _, _, rfl⟩
        · exact ⟨_, _, _, _, List.mem_singleton.mp hx⟩)
  · exact ((choose_preferred [mapped, plain, .v4 .loopback 7]).2.1 plain).mp hchosen
  · rw [happend, if_neg]
    rintro (⟨e, he, h4⟩ | ⟨-, hnone⟩)
    · obtain rfl := Option.some.inj he
      cases h4
    · exact hnone plain (by simp) rfl

end PortEcho.Endpoint
