import Mathlib.Data.List.Infix
import Mathlib.Data.List.Nodup
import PortEcho.Proofs.Prober.Shutdown

/-!
Rounds that fail.

Rounds come to an end where a probe, a line or a flush is refused, and do nothing more from then on.
A number is used up with its probe, whatever becomes of the line, so what is done later goes on with
the next one. Up to the failure the rounds print what they would have printed without it.
-/

namespace PortEcho

/-- `v` answers the calls that rounds make as `u` does, but may take what `u` refuses. -/
structure Surroundings.MilderThan (v u : Surroundings) : Prop where
  stop : v.stop = u.stop
  clock : v.clock = u.clock
  arrivals : v.arrivals = u.arrivals
  write : ∀ j, u.write j = none → v.write j = none
  flush : ∀ j, u.flush j = none → v.flush j = none
  send : ∀ j dest bytes n, u.send j dest bytes = .ok n → v.send j dest bytes = .ok n

lemma Surroundings.MilderThan.tells_iff {u v : Surroundings} (h : v.MilderThan u) (j : Journal)
    (span : Nat) : v.Tells j span ↔ u.Tells j span := by
  rw [Tells, Tells, h.clock]

/-- The same surroundings without refusals. -/
def Surroundings.unrefusing (u : Surroundings) : Surroundings :=
  { u with
    write := fun _ => none
    flush := fun _ => none
    send := fun j dest bytes =>
      match u.send j dest bytes with
      | .ok n => .ok n
      | .error _ => .ok bytes.length }

lemma Surroundings.milder_unrefusing (u : Surroundings) : u.unrefusing.MilderThan u where
  stop := rfl
  clock := rfl
  arrivals := rfl
  write _ _ := rfl
  flush _ _ := rfl
  send j dest bytes n h := by simp only [unrefusing, h]

namespace Journal

lemma lines_prefix {i j : Journal} (h : i <:+ j) : i.lines <+: j.lines := by
  obtain ⟨later, rfl⟩ := h
  rw [lines_append]
  exact List.prefix_append ..

end Journal

namespace Prober

section milder

variable {u v : Surroundings} {p q : Prober} (h : v.MilderThan u)
include h

lemma ping_of_milder {o : Outcome} (hp : p.ping u = (.ok o, q)) : p.ping v = (.ok o, q) := by
  rcases ping_cases u p with ⟨e, -, hu⟩ | ⟨n, -, -, hu⟩ | ⟨n, hn, ht, hu⟩
  · rw [hp] at hu
    cases hu
  · rw [hp] at hu
    cases hu
  have ht' : v.Tells p.journal p.timeout := (h.tells_iff _ _).mpr ht
  have hsend := h.send _ _ _ _ hn
  have hqueue : p.queued v = p.queued u := by
    unfold queued
    rw [h.arrivals, launch_eq, launch_eq, hn, hsend]
  have hlaunched : p.launched v n = p.launched u n := by
    unfold launched
    rw [hqueue]
  rw [ping_of_sent hsend ht', hlaunched, hqueue, ← hu, hp]

lemma print_of_milder {line : String} {i j : Journal} (hp : u.print line i = (none, j)) :
    v.print line i = (none, j) := by
  rcases u.print_cases line i with ⟨e, -, hu⟩ | ⟨e, -, -, hu⟩ | ⟨hw, hf, hu⟩
  · rw [hp] at hu
    cases hu
  · rw [hp] at hu
    cases hu
  · unfold Surroundings.print
    simp only [h.write _ hw, h.flush _ hf]
    exact hu.symm.trans hp

lemma pingAndReport_of_milder (hp : p.pingAndReport u = (none, q)) :
    p.pingAndReport v = (none, q) := by
  unfold pingAndReport at hp ⊢
  rcases hping : p.ping u with ⟨e | o, s⟩
  · rw [hping] at hp
    cases hp
  · rw [hping] at hp
    rw [ping_of_milder h hping]
    unfold report at hp ⊢
    rcases hprint : u.print o.line s.journal with ⟨_ | e, j⟩
    · simp only [hprint] at hp
      simp only [print_of_milder h hprint]
      exact hp
    · simp only [hprint] at hp
      cases hp

/-- What is written is written in milder surroundings as well. -/
lemma written_of_milder {o : Outcome} (ho : (p.fate u).written? = some o) :
    (p.fate v).written? = some o := by
  unfold fate at ho
  rcases hping : p.ping u with ⟨e | o', s⟩
  · simp only [hping] at ho
    cases ho
  rcases hw : u.write s.journal with _ | e
  · have hwritten : some o' = some o := by
      simp only [hping, hw] at ho
      split at ho <;> exact ho
    unfold fate
    simp only [ping_of_milder h hping, h.write _ hw]
    split <;> exact hwritten
  · simp only [hping, hw] at ho
    cases ho

end milder

lemma Tried.lines {p q : Prober} {t : Trial} (h : Tried p q t) :
    q.journal.lines = p.journal.lines ++ t.fate.written?.toList.map Outcome.line := by
  rw [h.journal, Journal.lines_append, Trial.lines_acts h.sound, Fate.lines_report]

namespace Rounds

variable {u v : Surroundings} {count interval : Nat}

lemma journal_run (u : Surroundings) (count interval n : Nat) (r : Rounds) :
    r.prober.journal <:+ (run u count interval n r).prober.journal := by
  refine run_induction (P := fun s => r.prober.journal <:+ s.prober.journal) List.suffix_rfl
    (fun s s' hs ht => ?_) n
  obtain ⟨acts, hacts, -⟩ := deed_of_turned ht
  rw [hacts]
  exact hs.trans (List.suffix_append ..)

/-- A turn that meets no fault is the same in milder surroundings. -/
lemma turn_of_milder (h : v.MilderThan u) {r : Rounds}
    (hr : ∀ p left b, r = ⟨p, .pinging (left + 1)⟩ →
      (r.turn u count interval).result? ≠ some (.error b)) :
    r.turn v count interval = r.turn u count interval := by
  obtain ⟨p, _ | ⟨_ | left⟩ | resume | result⟩ := r
  · simp only [turn, start, check, h.stop]
  · simp only [turn, finish, readClock, h.clock, h.tells_iff]
  · rcases hs : u.stop p.journal with _ | _
    · have hs' : v.stop p.journal = false := by rw [h.stop, hs]
      have hr' := fun b => hr p left b rfl
      rw [turn_pinging hs] at hr' ⊢
      rw [turn_pinging hs']
      rcases hp : (p.enter (.checked false)).pingAndReport u with ⟨_ | b, q⟩
      · rw [pingAndReport_of_milder h hp]
      · rw [hp] at hr'
        exact absurd rfl (hr' b)
    · simp only [turn, next, check, h.stop, hs]
  · simp only [turn, rest, check, readClock, h.stop, h.clock]
    rfl
  · rfl

/-- A ping breaks down only if it is made. -/
lemma stop_of_error {p : Prober} {left : Nat} {b : Breakdown}
    (hb : (turn u count interval ⟨p, .pinging (left + 1)⟩).result? = some (.error b)) :
    u.stop p.journal = false := by
  have hturned := turned u count interval (r := ⟨p, .pinging (left + 1)⟩) rfl
  generalize turn u count interval ⟨p, .pinging (left + 1)⟩ = r at hturned hb
  cases hturned with
  | tried _ _ _ _ hs => exact hs
  | stopped => cases hb

/-- A ping and its report print in milder surroundings what they print, and maybe more. -/
lemma lines_pinging_of_milder (h : v.MilderThan u) {p : Prober} (hs : u.stop p.journal = false)
    (left : Nat) :
    (turn u count interval ⟨p, .pinging (left + 1)⟩).prober.journal.lines <+:
      (turn v count interval ⟨p, .pinging (left + 1)⟩).prober.journal.lines := by
  have hs' : v.stop p.journal = false := by rw [h.stop, hs]
  obtain ⟨t, -, ht, hfate, -⟩ := pingAndReport_spec u (p.enter (.checked false))
  obtain ⟨t', -, ht', hfate', -⟩ := pingAndReport_spec v (p.enter (.checked false))
  rw [turn_pinging hs, turn_pinging hs', ht.lines, ht'.lines, hfate, hfate']
  rcases hw : ((p.enter (.checked false)).fate u).written? with _ | o
  · exact (List.prefix_append_right_inj _).mpr List.nil_prefix
  · rw [written_of_milder h hw]

/-- **Errors do not change what was printed before.** -/
theorem lines_run_of_milder (h : v.MilderThan u) (n : Nat) (r : Rounds) :
    (run u count interval n r).prober.journal.lines <+:
      (run v count interval n r).prober.journal.lines := by
  induction n generalizing r with
  | zero => exact List.prefix_rfl
  | succ n ih =>
    rcases hr : r.result? with _ | result
    · rw [run_succ hr, run_succ hr]
      by_cases hturn : ∀ p left b, r = ⟨p, .pinging (left + 1)⟩ →
          (r.turn u count interval).result? ≠ some (.error b)
      · rw [turn_of_milder h hturn]
        exact ih _
      · push Not at hturn
        obtain ⟨p, left, b, rfl, hb⟩ := hturn
        rw [run_of_ended hb]
        exact (lines_pinging_of_milder h (stop_of_error hb) left).trans
          (Journal.lines_prefix (journal_run ..))
    · rw [run_of_ended hr, run_of_ended hr]

end Rounds

/-- So many numbers from `first` on; they wrap. -/
def numbersFrom (first : UInt16) (n : Nat) : List UInt16 :=
  (List.range n).map fun i => first + .ofNat i

@[simp] lemma length_numbersFrom (first : UInt16) (n : Nat) : (numbersFrom first n).length = n := by
  simp [numbersFrom]

lemma numbersFrom_add (first : UInt16) (m n : Nat) :
    numbersFrom first (m + n) = numbersFrom first m ++ numbersFrom (first + .ofNat m) n := by
  unfold numbersFrom
  rw [List.range_add, List.map_append, List.map_map]
  refine congrArg _ (List.map_congr_left fun i _ => ?_)
  change first + .ofNat (m + i) = _
  rw [UInt16.ofNat_add, UInt16.add_assoc]

lemma eq_numbersFrom_of_prefix {first : UInt16} {n : Nat} {xs : List UInt16}
    (h : xs <+: numbersFrom first n) : xs = numbersFrom first xs.length := by
  have hle : xs.length ≤ n := by simpa using h.length_le
  have htake := List.prefix_iff_eq_take.mp h
  rw [numbersFrom, ← List.map_take, List.take_range, Nat.min_eq_left hle] at htake
  exact htake

/-- A number comes again only after all others. -/
lemma nodup_numbersFrom (first : UInt16) {n : Nat} (h : n ≤ 65536) :
    (numbersFrom first n).Nodup := by
  refine List.nodup_range.map_on fun i hi j hj hij => ?_
  rw [List.mem_range] at hi hj
  have hwords : (UInt16.ofNat i).toNat = (UInt16.ofNat j).toNat :=
    congrArg UInt16.toNat ((UInt16.add_right_inj first).mp hij)
  rw [UInt16.toNat_ofNat', UInt16.toNat_ofNat'] at hwords
  omega

namespace Rounds

/-- The rounds that `p` begins come in `n` turns, without a failure, to their `m`-th ping, which `q`
is about to make. -/
structure Reaches (u : Surroundings) (count interval n : Nat) (p : Prober) (m : Nat)
    (q : Prober) : Prop where
  turns : ∃ q₀ left, run u count interval n ⟨p, .starting⟩ = ⟨q₀, .pinging (left + 1)⟩ ∧
    u.stop q₀.journal = false ∧ q = q₀.enter (.checked false)
  sends : q.journal.sends + 1 = p.journal.sends + m

/-- The rounds that `p` began have failed with `e` in the turn after the first `n` and are over.
They have used up `m` numbers, `sent` probes have gone out, and the outcomes `os` have lines. -/
structure Broken (u : Surroundings) (count interval n : Nat) (p : Prober) (m sent : Nat)
    (os : List Outcome) (e : Fault) (r : Rounds) : Prop where
  ended : ∀ k, n < k → run u count interval k ⟨p, .starting⟩ = r
  result : r.result? = some (.error (.fault e))
  handed : r.prober.journal.handed = p.journal.handed ++ (numbersFrom p.next m).map Probe.build
  departures : r.prober.journal.departures.length = p.journal.departures.length + sent
  lines : r.prober.journal.lines = p.journal.lines ++ os.map Outcome.line
  flushes : r.prober.journal.flushes = p.journal.flushes + os.length
  reported : os.map Outcome.number = numbersFrom p.next os.length
  next : r.prober.next = p.next + .ofNat m
  /-- Where less is refused, the same lines come first. -/
  earlier : ∀ v : Surroundings, v.MilderThan u → ∀ k, n < k →
    r.prober.journal.lines <+: (run v count interval k ⟨p, .starting⟩).prober.journal.lines
  /-- A ping made later has the next number. -/
  pinged : ∀ v, (r.prober.ping v).2.journal.handed =
      p.journal.handed ++ (numbersFrom p.next (m + 1)).map Probe.build ∧
    ∀ o, (r.prober.ping v).1 = .ok o → o.number = p.next + .ofNat m
  /-- Rounds begun later go on with the next number, so that none is sent or reported twice before
  all are used up. -/
  resumed : ∀ v count' interval' k, ∃ l os',
    (run v count' interval' k ⟨r.prober, .starting⟩).prober.journal.handed =
      p.journal.handed ++ (numbersFrom p.next (m + l)).map Probe.build ∧
    (run v count' interval' k ⟨r.prober, .starting⟩).prober.journal.lines =
      p.journal.lines ++ (os ++ os').map Outcome.line ∧
    (os'.map Outcome.number).Sublist (numbersFrom (p.next + .ofNat m) l) ∧
    (m + l ≤ 65536 →
      (numbersFrom p.next (m + l)).Nodup ∧ ((os ++ os').map Outcome.number).Nodup)

variable {u : Surroundings} {count interval n m : Nat} {p q : Prober} {r : Rounds} {e : Fault}
  {ts : List Trial} {t : Trial}

lemma Told.handed (h : Told p ts r) : r.prober.journal.handed =
    p.journal.handed ++ (numbersFrom p.next ts.length).map Probe.build := by
  have hts := handed_actsOf h.sound
  rw [h.numbers] at hts
  exact (h.view fun _ ha => (Act.silent_of_isPause ha).handed).trans (congrArg _ hts)

lemma Told.lines (h : Told p ts r) :
    r.prober.journal.lines = p.journal.lines ++ (writtenOf ts).map Outcome.line :=
  (h.view fun _ ha => (Act.silent_of_isPause ha).line).trans (congrArg _ (lines_actsOf h.sound))

lemma Told.flushes (h : Told p ts r) :
    r.prober.journal.flushes = p.journal.flushes + (writtenOf ts).length :=
  (h.countP fun _ ha => (Act.silent_of_isPause ha).flush).trans
    (congrArg _ (flushes_actsOf h.sound))

lemma Told.sends (h : Told p ts r) : r.prober.journal.sends = p.journal.sends + ts.length :=
  (h.countP fun _ ha => (Act.silent_of_isPause ha).send).trans (congrArg _ (sends_actsOf h.sound))

lemma Told.departures (h : Told p ts r) : r.prober.journal.departures.length =
    p.journal.departures.length + ts.countP (·.given.isOk) := by
  have hpause : ∀ a : Act, a.isPause → a.departure? = none := by
    intro a ha
    cases a with
    | checked | timed | slept => rfl
    | _ => cases ha
  rw [Journal.departures, h.view hpause, List.length_append, ← length_departures_actsOf h.sound]
  rfl

/-- The numbers of the lines are among those of the trials. -/
lemma Told.reported (h : Told p ts r) :
    ((writtenOf ts).map Outcome.number).Sublist (numbersFrom p.next ts.length) := by
  have hsub := numbers_writtenOf h.sound
  rw [h.numbers] at hsub
  exact hsub

/-- Trials that have not broken down were sent, and have a line each. -/
lemma flawless (hs : ∀ x ∈ ts, x.Sound) (hts : ∀ x ∈ ts, x.breakdown? = none) :
    (writtenOf ts).map Outcome.number = ts.map Trial.number ∧
      ts.countP (·.given.isOk) = ts.length := by
  have hwritten : writtenOf ts = outcomesOf ts := by
    refine List.filterMap_congr fun x hx => ?_
    obtain ⟨o, ho⟩ := Trial.told_of_breakdown (hts x hx)
    rw [ho]
    rfl
  refine ⟨hwritten ▸ (printed_actsOf hs hts).1, List.countP_eq_length.mpr fun x hx => ?_⟩
  obtain ⟨o, ho⟩ := Trial.told_of_breakdown (hts x hx)
  obtain ⟨n, hn⟩ := (hs x hx).sent o (by rw [ho]; rfl)
  rw [hn]
  rfl

/-- If only the last trial has broken down, the lines have the first numbers. -/
lemma Told.prefix_reported (h : Told p (ts ++ [t]) r) (hts : ∀ x ∈ ts, x.breakdown? = none) :
    (writtenOf (ts ++ [t])).map Outcome.number <+: numbersFrom p.next (ts ++ [t]).length := by
  have hs : ∀ x ∈ ts, x.Sound := fun x hx => h.sound x (List.mem_append_left _ hx)
  have hnumbers : (ts ++ [t]).map Trial.number = numbersFrom p.next (ts ++ [t]).length := h.numbers
  rw [← hnumbers, writtenOf_concat, List.map_append, List.map_append, (flawless hs hts).1,
    List.prefix_append_right_inj]
  rcases hw : t.fate.written? with _ | o
  · exact List.nil_prefix
  · change [o.number] <+: [t.number]
    rw [Trial.number_of_written (h.sound t (by simp)) hw]

/-- Where the `m`-th trial fails, the rounds are over, and the trial is the last of the row. -/
lemma Reaches.told (h : Reaches u count interval n p m q)
    (he : (q.fate u).breakdown? = some (.fault e)) :
    ∃ r ts t, (∀ k, n < k → run u count interval k ⟨p, .starting⟩ = r) ∧
      r.result? = some (.error (.fault e)) ∧ Told p (ts ++ [t]) r ∧
      (∀ x ∈ ts, x.breakdown? = none) ∧ ts.length + 1 = m ∧ t.fate = q.fate u ∧
      t.given = u.send q.journal q.target (Probe.build q.next) := by
  obtain ⟨⟨q₀, left, hrun, hstop, rfl⟩, hm⟩ := h
  obtain ⟨ts, htold⟩ := told_run u count interval n p
  rw [hrun] at htold
  obtain ⟨t, hf, ht, hfate, hgiven⟩ := pingAndReport_spec u (q₀.enter (.checked false))
  have hfault : t.breakdown? = some (.fault e) := by rw [Trial.breakdown?, hfate, he]
  have hturn : turn u count interval ⟨q₀, .pinging (left + 1)⟩ =
      ⟨((q₀.enter (.checked false)).pingAndReport u).2, after left t.breakdown?⟩ := by
    rw [turn_pinging hstop, hf]
  have hall := htold.tried htold.went ht left
  rw [hfault] at hturn hall
  refine ⟨_, ts, t, fun k hk => ?_, rfl, hall, htold.went, ?_, hfate, hgiven⟩
  · obtain ⟨extra, rfl⟩ := Nat.exists_eq_add_of_lt hk
    rw [Nat.add_assoc, run_add, hrun, run_succ rfl, hturn, run_of_ended rfl]
  · have hsends := htold.sends
    have hlook : (q₀.enter (.checked false)).journal.sends = q₀.journal.sends := by
      simp [Prober.enter, Act.isSend]
    change q₀.journal.sends = _ at hsends
    omega

/-- **A trial that fails breaks the rounds.** -/
lemma Reaches.broken (h : Reaches u count interval n p m q)
    (he : (q.fate u).breakdown? = some (.fault e)) :
    ∃ r os, os.length = m - 1 + (q.fate u).written?.toList.length ∧
      Broken u count interval n p m
        (if (u.send q.journal q.target (Probe.build q.next)).isOk then m else m - 1) os e r := by
  obtain ⟨r, ts, t, hover, hresult, htold, hts, hm, hfate, hgiven⟩ := h.told he
  have hlength : (ts ++ [t]).length = m := by rw [List.length_append, List.length_singleton, hm]
  obtain ⟨hnumbers, hsent⟩ := flawless (fun x hx => htold.sound x (List.mem_append_left _ hx)) hts
  have hos : (writtenOf (ts ++ [t])).length = m - 1 + (q.fate u).written?.toList.length := by
    have hlen : (writtenOf ts).length = ts.length := by simpa using congrArg List.length hnumbers
    rw [writtenOf_concat, List.length_append, hlen, hfate]
    omega
  have hhanded := htold.handed
  have hnext := htold.next
  rw [hlength] at hhanded hnext
  refine ⟨r, writtenOf (ts ++ [t]), hos, hover, hresult, hhanded, ?_, htold.lines, htold.flushes,
    ?_, hnext, ?_, ?_, ?_⟩
  · rw [htold.departures, List.countP_append, hsent, List.countP_singleton, hgiven]
    split <;> omega
  · have hreported := eq_numbersFrom_of_prefix (htold.prefix_reported hts)
    rwa [List.length_map] at hreported
  · intro v hv k hk
    rw [← hover k hk]
    exact lines_run_of_milder hv k _
  · intro v
    obtain ⟨looks, hspec⟩ := ping_spec v r.prober
    have hlast : numbersFrom (p.next + .ofNat m) 1 = [r.prober.next] := by
      simp [numbersFrom, hnext]
    refine ⟨?_, fun o ho => (hspec.outcome o ho).trans hnext⟩
    rw [(handed_ping v r.prober).1, hhanded, numbersFrom_add, hlast, List.map_append,
      List.append_assoc]
    rfl
  · intro v count' interval' k
    obtain ⟨ts', htold'⟩ := told_run v count' interval' k r.prober
    have hreported := htold.reported
    have hreported' := htold'.reported
    have hhanded' := htold'.handed
    rw [hlength] at hreported
    rw [hnext] at hreported' hhanded'
    refine ⟨ts'.length, writtenOf ts', ?_, ?_, hreported', fun hl => ⟨nodup_numbersFrom _ hl, ?_⟩⟩
    · rw [hhanded', hhanded, numbersFrom_add, List.map_append, List.append_assoc]
    · rw [htold'.lines, htold.lines, List.map_append, List.append_assoc]
    · have hsub := hreported.append hreported'
      rw [← numbersFrom_add, ← List.map_append] at hsub
      exact hsub.nodup (nodup_numbersFrom _ hl)

end Rounds

/-- A ping that is answered or times out has sent its probe. -/
lemma isOk_send_of_ping {u : Surroundings} {p q : Prober} {o : Outcome}
    (hp : p.ping u = (.ok o, q)) :
    (u.send p.journal p.target (Probe.build p.next)).isOk = true := by
  obtain ⟨looks, hspec⟩ := ping_spec u p
  rw [hp] at hspec
  obtain ⟨n, hn⟩ := hspec.sent o rfl
  rw [hn]
  rfl

/-- **Errors stop rounds cleanly.** If the line of the `m`-th ping is refused, its probe was sent
but only the lines before are there; if the flush is, the line is there as well; and if the probe
is refused, neither is. In all three cases the rounds end with that error, and `m` numbers are used
up. -/
theorem rounds_broken {u : Surroundings} {count interval n m : Nat} {p q : Prober}
    (h : Rounds.Reaches u count interval n p m q) :
    (∀ o s e, q.ping u = (.ok o, s) → u.write s.journal = some e →
      ∃ r os, os.length = m - 1 ∧ Rounds.Broken u count interval n p m m os e r) ∧
    (∀ o s e, q.ping u = (.ok o, s) → u.write s.journal = none →
      u.flush (.wrote o.line none :: s.journal) = some e →
      ∃ r os, os.length = m ∧ Rounds.Broken u count interval n p m m os e r) ∧
    (∀ e, u.send q.journal q.target (Probe.build q.next) = .error e →
      ∃ r os, os.length = m - 1 ∧ Rounds.Broken u count interval n p m (m - 1) os e r) := by
  refine ⟨fun o s e hp hw => ?_, fun o s e hp hw hf => ?_, fun e he => ?_⟩
  · have hfate : q.fate u = .unwritten o e := by simp only [fate, hp, hw]
    obtain ⟨r, os, hos, hbroken⟩ := h.broken (e := e) (by rw [hfate]; rfl)
    rw [hfate] at hos
    rw [if_pos (isOk_send_of_ping hp)] at hbroken
    exact ⟨r, os, hos, hbroken⟩
  · have hfate : q.fate u = .unflushed o e := by simp only [fate, hp, hw, hf]
    obtain ⟨r, os, hos, hbroken⟩ := h.broken (e := e) (by rw [hfate]; rfl)
    have hm : m - 1 + 1 = m := by
      obtain ⟨_, _, _, _, _, _, hm, _⟩ := h.told (e := e) (by rw [hfate]; rfl)
      omega
    rw [hfate] at hos
    rw [if_pos (isOk_send_of_ping hp)] at hbroken
    exact ⟨r, os, hos.trans hm, hbroken⟩
  · have hfate : q.fate u = .lost (.fault e) := by simp only [fate, ping_of_refused he]
    obtain ⟨r, os, hos, hbroken⟩ := h.broken (e := e) (by rw [hfate]; rfl)
    have hsend : (u.send q.journal q.target (Probe.build q.next)).isOk = false := by
      rw [he]
      rfl
    rw [hfate] at hos
    rw [hsend, if_neg Bool.false_ne_true] at hbroken
    exact ⟨r, os, hos, hbroken⟩

/-- So many lines, flushes and probes are taken. -/
def stingy (lines flushes probes : Nat) : Surroundings where
  write j := if j.writes < lines then none else some (.custom .other "full")
  flush j := if j.flushes < flushes then none else some (.custom .other "full")
  send j _ bytes := if j.sends < probes then .ok bytes.length else .error .unreachable

/-- A prober that nobody answers, about to send the last number before they begin again. -/
def unansweredLast : Prober := { unanswered with next := 65535 }

/-- The prober before its third ping, which is the first one of its second round. -/
def third (u : Surroundings) : Prober :=
  (Rounds.run u 2 0 6 ⟨unansweredLast, .starting⟩).prober.enter (.checked false)

/-- The third line is refused, or the third flush, or the third probe. Without the refusal the two
lines before it would have come first as well. -/
theorem rounds_broken_stingy :
    (Rounds.Reaches (stingy 2 9 9) 2 0 6 unansweredLast 3 (third (stingy 2 9 9)) ∧
      ∃ r os, os.length = 2 ∧ Rounds.Broken (stingy 2 9 9) 2 0 6 unansweredLast 3 3 os
        (.custom .other "full") r ∧ ∀ k, 6 < k → r.prober.journal.lines <+:
          (Rounds.run (stingy 2 9 9).unrefusing 2 0 k
            ⟨unansweredLast, .starting⟩).prober.journal.lines) ∧
    (Rounds.Reaches (stingy 9 2 9) 2 0 6 unansweredLast 3 (third (stingy 9 2 9)) ∧
      ∃ r os, os.length = 3 ∧ Rounds.Broken (stingy 9 2 9) 2 0 6 unansweredLast 3 3 os
        (.custom .other "full") r) ∧
    (Rounds.Reaches (stingy 9 9 2) 2 0 6 unansweredLast 3 (third (stingy 9 9 2)) ∧
      ∃ r os, os.length = 2 ∧ Rounds.Broken (stingy 9 9 2) 2 0 6 unansweredLast 3 2 os
        .unreachable r) := by
  have hline : Rounds.Reaches (stingy 2 9 9) 2 0 6 unansweredLast 3 (third (stingy 2 9 9)) :=
    ⟨⟨_, 1, rfl, rfl, rfl⟩, rfl⟩
  have hflush : Rounds.Reaches (stingy 9 2 9) 2 0 6 unansweredLast 3 (third (stingy 9 2 9)) :=
    ⟨⟨_, 1, rfl, rfl, rfl⟩, rfl⟩
  have hprobe : Rounds.Reaches (stingy 9 9 2) 2 0 6 unansweredLast 3 (third (stingy 9 9 2)) :=
    ⟨⟨_, 1, rfl, rfl, rfl⟩, rfl⟩
  obtain ⟨r, os, hos, hbroken⟩ := (rounds_broken hline).1 (.timeout 1) _ _ rfl rfl
  exact ⟨⟨hline, r, os, hos, hbroken, hbroken.earlier _ (Surroundings.milder_unrefusing _)⟩,
    ⟨hflush, (rounds_broken hflush).2.1 (.timeout 1) _ _ rfl rfl rfl⟩,
    ⟨hprobe, (rounds_broken hprobe).2.2 _ rfl⟩⟩

end Prober

end PortEcho
