import Mathlib.Data.List.TakeWhile
import PortEcho.Endpoint.Literal
import PortEcho.Endpoint.Text
import PortEcho.Proofs.Text

/-!
The written forms of addresses read back.

An address is read back from its text, of either version, so two addresses never share one; and the
tuple of an endpoint tells it from all others.
-/

namespace PortEcho

open Text

namespace IPv4

lemma toList_text (ip : IPv4) :
    ip.text.toList = Nat.toDigits 10 ip.a.toNat ++ '.' :: (Nat.toDigits 10 ip.b.toNat ++ '.' ::
      (Nat.toDigits 10 ip.c.toNat ++ '.' :: Nat.toDigits 10 ip.d.toNat)) := by
  have hoctet : ∀ n : UInt8, (toString n).toList = Nat.toDigits 10 n.toNat :=
    fun n => toList_toString n.toNat
  have hdot : ".".toList = ['.'] := rfl
  simp only [text, String.toList_append, hoctet, hdot, List.append_assoc, List.cons_append,
    List.nil_append]

lemma notMem_text {c : Char} (hdigit : digitValue? c = none) (hdot : c ≠ '.') (ip : IPv4) :
    c ∉ ip.text.toList := by
  have hnumeral : ∀ n, c ∉ Nat.toDigits 10 n := notMem_toDigits (by decide) (by decide) hdigit
  rw [toList_text]
  simp [hnumeral, hdot]

lemma octet?_toDigits (n : UInt8) : octet? (Nat.toDigits 10 n.toNat) = some n := by
  have hall : ∀ m : Fin 256, octet? (Nat.toDigits 10 m) = some (.ofNat m) := by decide +kernel
  rw [hall ⟨n.toNat, n.toNat_lt⟩, UInt8.ofNat_toNat]

/-- The text of an address reads back. -/
theorem ofChars?_text (ip : IPv4) : ofChars? ip.text.toList = some ip := by
  have hdot : ∀ n, '.' ∉ Nat.toDigits 10 n := notMem_toDigits (by decide) (by decide) rfl
  rw [toList_text, ofChars?, splitAt_append (hdot _), splitAt_append (hdot _),
    splitAt_append (hdot _), splitAt_of_notMem (hdot _)]
  simp [octet?_toDigits]

lemma toSegments_ofSegments (s t : UInt16) : (ofSegments s t).toSegments = [s, t] := by
  have hsegment : ∀ s : UInt16, (s / 256).toUInt8.toUInt16 * 256 + s.toUInt8.toUInt16 = s := by
    intro s
    have hlt := s.toNat_lt
    apply UInt16.toNat_inj.mp
    simp
    omega
  simp only [toSegments, ofSegments, hsegment]

end IPv4

namespace IPv6

/-- The longest run of zeros stands where it is said to start. -/
lemma longestZeros_spec (segments : List UInt16) {start length : Nat}
    (h : longestZeros segments = (start, length)) :
    segments =
      segments.take start ++ List.replicate length 0 ++ segments.drop (start + length) := by
  induction segments generalizing start length with
  | nil =>
    obtain ⟨rfl, rfl⟩ := Prod.ext_iff.mp h
    rfl
  | cons s rest ih =>
    rw [longestZeros] at h
    split at h
    · obtain ⟨rfl, rfl⟩ := Prod.ext_iff.mp h
      have hzeros : (s :: rest).takeWhile (· == 0) = List.replicate (zerosInFront (s :: rest)) 0 :=
        List.eq_replicate_iff.mpr ⟨rfl, fun x hx => by simpa using List.mem_takeWhile_imp hx⟩
      have hcut : (s :: rest) = List.replicate (zerosInFront (s :: rest)) 0 ++
          (s :: rest).dropWhile (· == 0) := by
        rw [← hzeros, List.takeWhile_append_dropWhile]
      have hdrop : (s :: rest).drop (zerosInFront (s :: rest)) = (s :: rest).dropWhile (· == 0) :=
        calc (s :: rest).drop (zerosInFront (s :: rest))
            = (List.replicate (zerosInFront (s :: rest)) 0 ++
                (s :: rest).dropWhile (· == 0)).drop (zerosInFront (s :: rest)) :=
              congrArg _ hcut
          _ = (s :: rest).dropWhile (· == 0) := List.drop_left' List.length_replicate
      simp only [List.take_zero, List.nil_append, Nat.zero_add, hdrop]
      exact hcut
    · obtain ⟨later, zeros, hlater⟩ : ∃ later zeros, longestZeros rest = (later, zeros) :=
        ⟨_, _, rfl⟩
      have hrest := ih hlater
      rw [hlater] at h
      obtain ⟨rfl, rfl⟩ := Prod.ext_iff.mp h
      rw [List.take_succ_cons, Nat.succ_add, List.drop_succ_cons, List.cons_append,
        List.cons_append, ← hrest]

/-- The segments as they are written, without the colons. -/
def parts (segments : List UInt16) : List (List Char) :=
  segments.map fun s => Nat.toDigits 16 s.toNat

lemma toList_groups (segments : List UInt16) :
    (groups segments).toList = [':'].intercalate (parts segments) := by
  have hcolon : ":".toList = [':'] := rfl
  rw [groups, String.toList_intercalate, hcolon, List.map_map]
  congr 1
  exact List.map_congr_left fun s _ => by simp [hexadecimal]

lemma notMem_group {c : Char} (h : digitValue? c = none) (s : UInt16) :
    c ∉ Nat.toDigits 16 s.toNat := notMem_toDigits (by decide) (by decide) h s.toNat

lemma parts_spec (segments : List UInt16) : ∀ p ∈ parts segments, p ≠ [] ∧ ':' ∉ p := by
  intro p hp
  obtain ⟨s, -, rfl⟩ := List.mem_map.mp hp
  exact ⟨by simp, notMem_group rfl s⟩

lemma group?_toDigits (s : UInt16) : group? (Nat.toDigits 16 s.toNat) = some s := by
  have hlen : (Nat.toDigits 16 s.toNat).length ≤ 4 :=
    (Nat.length_toDigits_le_iff (by decide) (by decide)).mpr s.toNat_lt
  rw [group?, if_pos hlen, digits?_toDigits (by decide) (by decide)]
  simp

/-- A group is no dotted address. -/
lemma ofChars?_group (s : UInt16) : IPv4.ofChars? (Nat.toDigits 16 s.toNat) = none := by
  rw [IPv4.ofChars?, splitAt_of_notMem (notMem_group rfl s)]

lemma groupsOfParts?_parts (dotted : Bool) (segments : List UInt16) :
    groupsOfParts? dotted (parts segments) = some segments := by
  induction segments with
  | nil => rfl
  | cons s rest ih =>
    rcases rest with _ | ⟨t, rest⟩
    · have hdotted : (if dotted then IPv4.ofChars? (Nat.toDigits 16 s.toNat) else none) = none := by
        rw [ofChars?_group, ite_self]
      have hparts : parts [s] = [Nat.toDigits 16 s.toNat] := rfl
      rw [hparts, groupsOfParts?, hdotted]
      simp [group?_toDigits]
    · have hparts : parts (s :: t :: rest) =
          Nat.toDigits 16 s.toNat :: Nat.toDigits 16 t.toNat :: parts rest := rfl
      have hrest : groupsOfParts? dotted (Nat.toDigits 16 t.toNat :: parts rest) =
          some (t :: rest) := ih
      rw [hparts, groupsOfParts?, group?_toDigits, hrest]
      · rfl
      · simp

/-- Groups between colons read back, also if there are none. -/
lemma groups?_groups (dotted : Bool) (segments : List UInt16) :
    groups? dotted (groups segments).toList = some segments := by
  rw [toList_groups, groups?]
  rcases segments with _ | ⟨s, rest⟩
  · rfl
  · have hne : parts (s :: rest) ≠ [] := by simp [parts]
    have hsplit := splitAt_intercalate hne fun p hp => (parts_spec (s :: rest) p hp).2
    have hfull : ([':'].intercalate (parts (s :: rest))).isEmpty = false := by
      rw [List.isEmpty_eq_false_iff]
      intro hnil
      rw [hnil] at hsplit
      have hfirst : [] ∈ parts (s :: rest) := by simp [← hsplit, splitAt]
      exact (parts_spec _ _ hfirst).1 rfl
    rw [hfull, hsplit]
    exact groupsOfParts?_parts dotted (s :: rest)

/-- Two colons stand where groups are left out, and nowhere before. -/
lemma splitAtPair?_groups (segments : List UInt16) (rest : List Char) :
    splitAtPair? ':' ((groups segments).toList ++ rest) =
      (splitAtPair? ':' rest).map fun (front, back) =>
        ((groups segments).toList ++ front, back) := by
  rw [toList_groups]
  exact splitAtPair?_intercalate (parts_spec segments) rest

/-- What is left out between two colons are the zeros that are missing. -/
lemma ofChars?_compressed (ip : IPv6) (front back : List UInt16) {n : Nat} (hn : 0 < n)
    (h : ip.toList = front ++ List.replicate n 0 ++ back) :
    ofChars? ((groups front).toList ++ ':' :: ':' :: (groups back).toList) = some ip := by
  have hlen : front.length + n + back.length = 8 := by
    have hall := congrArg List.length h
    simp only [length_toList, List.length_append, List.length_replicate] at hall
    omega
  have hpair : splitAtPair? ':' (':' :: ':' :: (groups back).toList) =
      some ([], (groups back).toList) := by simp [splitAtPair?]
  have hzeros : 8 - front.length - back.length = n := by omega
  have hfew : front.length + back.length < 8 := by omega
  rw [ofChars?, splitAtPair?_groups, hpair]
  simp only [Option.map_some, List.append_nil, groups?_groups]
  have hall : ofList? (front ++ List.replicate n 0 ++ back) = some ip := by
    rw [← h]
    exact ofList?_toList ip
  simpa [hfew, hzeros] using hall

/-- A mapped address ends with the address that it stands for. -/
lemma toList_of_mapped {ip : IPv6} {v4 : IPv4} (h : ip.mapped? = some v4) :
    ip.toList = [0, 0, 0, 0, 0, 0xffff] ++ v4.toSegments := by
  unfold mapped? at h
  split at h
  · next htake =>
    obtain rfl := Option.some.inj h
    have hdrop : ip.toList.drop 6 = [ip.segments[6], ip.segments[7]] := by
      apply List.ext_getElem
      · simp
      · intro i hi _
        have hlt : i < 2 := by simpa using hi
        rcases i with _ | _ | i
        · simp [toList]
        · simp [toList]
        · omega
    rw [IPv4.toSegments_ofSegments, ← hdrop, ← htake, List.take_append_drop]
  · cases h

lemma text_mapped {ip : IPv6} {v4 : IPv4} (h : ip.mapped? = some v4) :
    ip.text.toList = ':' :: ':' :: ((Nat.toDigits 16 0xffff) ++ ':' :: v4.text.toList) := by
  have hfront : "::ffff:".toList = ':' :: ':' :: (Nat.toDigits 16 0xffff ++ [':']) := by decide
  rw [text, h]
  simp only [String.toList_append, hfront, List.cons_append, List.append_assoc, List.nil_append]

/-- The text of an address reads back. -/
theorem ofChars?_text (ip : IPv6) : ofChars? ip.text.toList = some ip := by
  rcases hm : ip.mapped? with _ | v4
  · obtain ⟨start, length, hzeros⟩ : ∃ start length, longestZeros ip.toList = (start, length) :=
      ⟨_, _, rfl⟩
    by_cases hrun : 2 ≤ length
    · have htext : ip.text.toList = (groups (ip.toList.take start)).toList ++ ':' :: ':' ::
          (groups (ip.toList.drop (start + length))).toList := by
        have hcolons : "::".toList = [':', ':'] := rfl
        rw [text, hm]
        simp only [hzeros, hrun, if_true, String.toList_append, hcolons, List.append_assoc,
          List.cons_append, List.nil_append]
      rw [htext]
      exact ofChars?_compressed ip _ _ (by omega) (longestZeros_spec _ hzeros)
    · have htext : ip.text = groups ip.toList := by
        rw [text, hm]
        simp only [hzeros, hrun, if_false]
      have hpair := splitAtPair?_groups ip.toList []
      rw [List.append_nil] at hpair
      rw [htext, ofChars?, hpair]
      simp [splitAtPair?, groups?_groups]
  · have hcolon : ':' ∉ Nat.toDigits 16 0xffff := notMem_group (by decide) 0xffff
    have hsplit : splitAt ':' (Nat.toDigits 16 0xffff ++ ':' :: v4.text.toList) =
        [Nat.toDigits 16 0xffff, v4.text.toList] := by
      rw [splitAt_append hcolon, splitAt_of_notMem (v4.notMem_text (by decide) (by decide))]
    have hback : groups? true (Nat.toDigits 16 0xffff ++ ':' :: v4.text.toList) =
        some (0xffff :: v4.toSegments) := by
      have hfull : (Nat.toDigits 16 0xffff ++ ':' :: v4.text.toList).isEmpty = false := by simp
      have hfirst : group? (Nat.toDigits 16 0xffff) = some 0xffff := group?_toDigits 0xffff
      have hlast : groupsOfParts? true [v4.text.toList] = some v4.toSegments := by
        simp [groupsOfParts?, IPv4.ofChars?_text]
      rw [groups?, hfull, hsplit]
      simp only [Bool.false_eq_true, if_false]
      rw [groupsOfParts?, hfirst, hlast]
      · rfl
      · simp
    have hall : ofList? ([0, 0, 0, 0, 0, 0xffff] ++ v4.toSegments) = some ip := by
      rw [← toList_of_mapped hm]
      exact ofList?_toList ip
    have hfront : groups? false [] = some [] := rfl
    rw [text_mapped hm, ofChars?]
    simp only [splitAtPair?, and_self, if_true, hback, hfront]
    simpa [IPv4.toSegments] using hall

lemma notMem_groups {c : Char} (hdigit : digitValue? c = none) (hcolon : c ≠ ':')
    (segments : List UInt16) : c ∉ (groups segments).toList := by
  rw [toList_groups]
  intro hc
  rcases eq_or_mem_of_mem_intercalate hc with rfl | ⟨p, hp, hmem⟩
  · exact hcolon rfl
  · obtain ⟨s, -, rfl⟩ := List.mem_map.mp hp
    exact notMem_group hdigit s hmem

lemma notMem_text {c : Char} (hdigit : digitValue? c = none) (hcolon : c ≠ ':') (hdot : c ≠ '.')
    (ip : IPv6) : c ∉ ip.text.toList := by
  have hgroup := notMem_groups hdigit hcolon
  rcases hm : ip.mapped? with _ | v4
  · have hcolons : "::".toList = [':', ':'] := rfl
    rw [text, hm]
    simp only
    split <;> simp [hgroup, hcolons, hcolon]
  · have hfirst : c ∉ Nat.toDigits 16 0xffff := notMem_group hdigit 0xffff
    rw [text_mapped hm]
    simp only [List.mem_cons, List.mem_append]
    simp [hcolon, hfirst, v4.notMem_text hdigit hdot]

end IPv6

namespace Endpoint

/-- The ports and the other numbers of a tuple, as they follow the address. -/
def numbers : Endpoint → List Char
  | v4 _ port => Nat.toDigits 10 port.toNat ++ [')']
  | v6 _ port flow scope =>
    Nat.toDigits 10 port.toNat ++ ',' :: ' ' :: (Nat.toDigits 10 flow.toNat ++ ',' :: ' ' ::
      (Nat.toDigits 10 scope.toNat ++ [')']))

def hostText : Endpoint → List Char
  | v4 ip _ => ip.text.toList
  | v6 ip _ _ _ => ip.text.toList

lemma toList_tuple (e : Endpoint) :
    e.tuple.toList = '(' :: '\'' :: (e.hostText ++ '\'' :: ',' :: ' ' :: e.numbers) := by
  have hopen : "('".toList = ['(', '\''] := rfl
  have hquote : "', ".toList = ['\'', ',', ' '] := rfl
  have hcomma : ", ".toList = [',', ' '] := rfl
  have hclose : ")".toList = [')'] := rfl
  have hport : ∀ n : UInt16, (toString n).toList = Nat.toDigits 10 n.toNat :=
    fun n => toList_toString n.toNat
  have hword : ∀ n : UInt32, (toString n).toList = Nat.toDigits 10 n.toNat :=
    fun n => toList_toString n.toNat
  rcases e with ⟨ip, port⟩ | ⟨ip, port, flow, scope⟩
  all_goals simp [tuple, hostText, numbers, hopen, hquote, hcomma, hclose, hport, hword]

/-- Neither a parenthesis nor a quote nor a comma stands in an address. -/
lemma notMem_hostText {c : Char} (hdigit : digitValue? c = none) (hcolon : c ≠ ':') (hdot : c ≠ '.')
    (e : Endpoint) : c ∉ e.hostText := by
  rcases e with ⟨ip, port⟩ | ⟨ip, port, flow, scope⟩
  · exact ip.notMem_text hdigit hdot
  · exact ip.notMem_text hdigit hcolon hdot

lemma notMem_numbers {c : Char} (hdigit : digitValue? c = none) (hmark : c ∉ [',', ' ', ')'])
    (e : Endpoint) : c ∉ e.numbers := by
  have hnumeral : ∀ n, c ∉ Nat.toDigits 10 n := notMem_toDigits (by decide) (by decide) hdigit
  simp only [List.mem_cons, List.not_mem_nil, or_false, not_or] at hmark
  rcases e with ⟨ip, port⟩ | ⟨ip, port, flow, scope⟩ <;> simp [numbers, hnumeral, hmark]

/-- A tuple is on one line. -/
lemma notMem_tuple (e : Endpoint) : '\n' ∉ e.tuple.toList := by
  have hhost : '\n' ∉ e.hostText := e.notMem_hostText rfl (by decide) (by decide)
  have hnumbers : '\n' ∉ e.numbers := e.notMem_numbers rfl (by decide)
  rw [toList_tuple]
  simp [hhost, hnumbers]

/-- A tuple has one opening parenthesis, its first character. -/
lemma tuple_opens (e : Endpoint) : ∃ rest, e.tuple.toList = '(' :: rest ∧ '(' ∉ rest := by
  refine ⟨_, e.toList_tuple, ?_⟩
  have hhost : '(' ∉ e.hostText := e.notMem_hostText rfl (by decide) (by decide)
  have hnumbers : '(' ∉ e.numbers := e.notMem_numbers rfl (by decide)
  simp [hhost, hnumbers]

/-- The numbers tell how many there are, and each of them. -/
lemma numbers_cases {e e' : Endpoint} (h : e.numbers = e'.numbers) :
    (∃ ip ip' port, e = v4 ip port ∧ e' = v4 ip' port) ∨
    ∃ ip ip' port flow scope, e = v6 ip port flow scope ∧ e' = v6 ip' port flow scope := by
  have hcomma : ∀ n, ',' ∉ Nat.toDigits 10 n := notMem_toDigits (by decide) (by decide) rfl
  have hclose : ∀ n, ')' ∉ Nat.toDigits 10 n := notMem_toDigits (by decide) (by decide) rfl
  rcases e with ⟨ip, port⟩ | ⟨ip, port, flow, scope⟩ <;>
    rcases e' with ⟨ip', port'⟩ | ⟨ip', port', flow', scope'⟩
  · have hport := (append_cons_inj_of_first (hclose _) (hclose _)).mp h
    obtain rfl := UInt16.toNat_inj.mp (toDigits_inj.mp hport.1)
    exact .inl ⟨ip, ip', port, rfl, rfl⟩
  · -- there is a comma on one side only
    have hmem : ',' ∈ (v4 ip port).numbers := by
      rw [h]
      simp [numbers]
    simp [numbers, hcomma] at hmem
  · have hmem : ',' ∈ (v4 ip' port').numbers := by
      rw [← h]
      simp [numbers]
    simp [numbers, hcomma] at hmem
  · obtain ⟨hport, hrest⟩ := (append_cons_inj_of_first (hcomma _) (hcomma _)).mp h
    obtain ⟨hflow, hlast⟩ := (append_cons_inj_of_first (hcomma _) (hcomma _)).mp
      (List.cons.inj hrest).2
    obtain ⟨hscope, -⟩ := (append_cons_inj_of_first (hclose _) (hclose _)).mp
      (List.cons.inj hlast).2
    obtain rfl := UInt16.toNat_inj.mp (toDigits_inj.mp hport)
    obtain rfl := UInt32.toNat_inj.mp (toDigits_inj.mp hflow)
    obtain rfl := UInt32.toNat_inj.mp (toDigits_inj.mp hscope)
    exact .inr ⟨ip, ip', port, flow, scope, rfl, rfl⟩

/-- A tuple tells its endpoint from all others. -/
theorem tuple_inj {e e' : Endpoint} : e.tuple = e'.tuple ↔ e = e' := by
  constructor
  · intro h
    have hlist : e.tuple.toList = e'.tuple.toList := congrArg String.toList h
    have hquote : ∀ x : Endpoint, '\'' ∉ x.hostText := fun x =>
      x.notMem_hostText rfl (by decide) (by decide)
    rw [toList_tuple, toList_tuple] at hlist
    obtain ⟨hhost, hrest⟩ := (append_cons_inj_of_first (hquote e) (hquote e')).mp
      (List.cons.inj (List.cons.inj hlist).2).2
    have hnumbers : e.numbers = e'.numbers := (List.cons.inj (List.cons.inj hrest).2).2
    rcases numbers_cases hnumbers with ⟨ip, ip', port, rfl, rfl⟩ |
      ⟨ip, ip', port, flow, scope, rfl, rfl⟩
    · have hread : IPv4.ofChars? ip.text.toList = IPv4.ofChars? ip'.text.toList :=
        congrArg IPv4.ofChars? hhost
      rw [IPv4.ofChars?_text, IPv4.ofChars?_text] at hread
      rw [Option.some.inj hread]
    · have hread : IPv6.ofChars? ip.text.toList = IPv6.ofChars? ip'.text.toList :=
        congrArg IPv6.ofChars? hhost
      rw [IPv6.ofChars?_text, IPv6.ofChars?_text] at hread
      rw [Option.some.inj hread]
  · exact congrArg tuple

end Endpoint

end PortEcho
