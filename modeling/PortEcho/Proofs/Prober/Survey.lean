import PortEcho.CommandLine.Probe
import PortEcho.Proofs.Prober.Unrolling

/-!
What a survey prints, and the status that it ends with.

A survey goes from ping to ping, up to the last one or to one that breaks down. Each ping before
that has a line with its place and whether it was answered. The failures are counted in a word that
wraps, so the status tells that all pings were answered also when half of the range of the word or
more were not.
-/

namespace PortEcho

namespace Prober

namespace Survey

/-- The way of a survey from one state to another: the outcomes of its pings, and what broke off the
ping after these, if anything did. -/
inductive Course (w : Surroundings) : Survey → List Outcome → Option Breakdown → Survey → Prop
  | done (s : Survey) : Course w s [] none s
  | failed {s : Survey} {b : Breakdown} {p : Prober} (h : s.prober.ping w = (.error b, p)) :
    Course w s [] (some b) { s with prober := p }
  | pinged {s t : Survey} {o : Outcome} {p : Prober} {os : List Outcome} {broken : Option Breakdown}
      (h : s.prober.ping w = (.ok o, p))
      (rest : Course w (record w o { s with prober := p }) os broken t) :
    Course w s (o :: os) broken t

/-- A run of a survey makes as many pings as it is asked to, or breaks down before. -/
theorem course_run (w : Surroundings) (n : Nat) (s : Survey) :
    ∃ os, Course w s os (run w n s).1 (run w n s).2 ∧
      ((run w n s).1 = none → os.length = n) ∧ ∀ b, (run w n s).1 = some b → os.length < n := by
  induction n generalizing s with
  | zero => exact ⟨[], .done s, fun _ => rfl, nofun⟩
  | succ n ih =>
    unfold run next
    rcases hp : s.prober.ping w with ⟨b | o, p⟩
    · exact ⟨[], .failed hp, nofun, fun _ _ => Nat.succ_pos n⟩
    · obtain ⟨os, hcourse, hwhole, hpart⟩ := ih (record w o { s with prober := p })
      refine ⟨o :: os, .pinged hp hcourse, fun h => ?_, fun b h => ?_⟩
      · rw [List.length_cons, hwhole h]
      · rw [List.length_cons]
        exact Nat.succ_lt_succ (hpart b h)

/-- The line of a ping, with the place of the ping. -/
def Tells (x : Outcome × Nat) (line : String) : Prop :=
  ∃ nanos, line = toString x.2 ++
    (if x.1.isReply then ": ok (" ++ millisText nanos ++ " ms)" else ": fail") ++ "\n"

lemma tells_surveyLine (no nanos : Nat) (o : Outcome) : Tells (o, no) (surveyLine no nanos o) :=
  ⟨nanos, rfl⟩

namespace Course

variable {w : Surroundings} {s t : Survey} {os : List Outcome} {broken : Option Breakdown}

/-- Each outcome has its line, and the lines are numbered from where the survey stands. -/
lemma lines (h : Course w s os broken t) :
    ∃ ls, t.prober.journal.lines = s.prober.journal.lines ++ ls ∧
      List.Forall₂ Tells (os.zipIdx s.no) ls := by
  induction h with
  | done s => exact ⟨[], by simp, .nil⟩
  | @failed s b p hp =>
    have hout := (output_ping w s.prober).1
    rw [hp] at hout
    exact ⟨[], by simpa using hout, .nil⟩
  | @pinged s t o p os broken hp _ ih =>
    have hout := (output_ping w s.prober).1
    rw [hp] at hout
    obtain ⟨ls, hlines, htold⟩ := ih
    refine ⟨surveyLine s.no (w.roundTrip p.journal) o :: ls, ?_,
      .cons (tells_surveyLine ..) htold⟩
    rw [hlines, ← hout]
    simp [record, enter, Act.line?]

/-- Each ping has handed over its probe, also the one that broke down. -/
lemma handed (h : Course w s os broken t) :
    t.prober.journal.handed = s.prober.journal.handed ++
      (List.range (os.length + broken.toList.length)).map fun i =>
        Probe.build (s.prober.next + .ofNat i) := by
  induction h with
  | done s => simp
  | @failed s b p hp =>
    have hhanded := (handed_ping w s.prober).1
    rw [hp] at hhanded
    simpa [List.range_succ] using hhanded
  | @pinged s t o p os broken hp _ ih =>
    obtain ⟨hhanded, hnext⟩ := handed_ping w s.prober
    rw [hp] at hhanded hnext
    change p.journal.handed = _ at hhanded
    have hrecord :
        (record w o { s with prober := p }).prober.journal.handed = p.journal.handed := by
      simp [record, enter, Journal.handed, Act.handed?]
    have hsucc : ∀ i : Nat, s.prober.next + .ofNat (i + 1) = p.next + .ofNat i := by
      intro i
      change p.next = s.prober.next + 1 at hnext
      rw [hnext, Nat.add_comm, UInt16.ofNat_add, UInt16.add_assoc]
      rfl
    have hrow : ∀ n : Nat,
        (List.range (n + 1)).map (fun i => Probe.build (s.prober.next + .ofNat i)) =
          Probe.build s.prober.next ::
            (List.range n).map fun i => Probe.build (p.next + .ofNat i) := by
      intro n
      rw [List.range_succ_eq_map, List.map_cons, List.map_map]
      refine congrArg₂ List.cons (by simp) (List.map_congr_left fun i _ => ?_)
      exact congrArg Probe.build (hsucc i)
    rw [ih, hrecord, hhanded, List.length_cons, Nat.add_right_comm, hrow, List.append_assoc]
    rfl

/-- The failures are counted in a word that wraps. -/
lemma failures (h : Course w s os broken t) :
    t.failures = s.failures + .ofNat (os.countP fun o => !o.isReply) := by
  induction h with
  | done s => simp
  | failed => simp
  | @pinged s t o p os broken hp _ ih =>
    rw [ih, List.countP_cons]
    rcases ho : o.isReply with _ | _
    · simp only [record, ho, Bool.false_eq_true, if_false, Bool.not_false, if_true]
      rw [Nat.add_comm, Int32.ofNat_add, Int32.add_assoc]
      rfl
    · simp [record, ho]

end Course

/-- The word does not tell large counts from none. -/
lemma word_nonpos_iff {k : Nat} (hk : k < 2 ^ 32) : Int32.ofNat k ≤ 0 ↔ k = 0 ∨ 2 ^ 31 ≤ k := by
  rw [Int32.le_iff_toInt_le, Int32.toInt_ofNat', Int.bmod_def]
  simp
  omega

/-- A survey that begins with no failures passes if there are none, or too many. -/
lemma Course.passed_iff {w : Surroundings} {s t : Survey} {os : List Outcome}
    {broken : Option Breakdown} (h : Course w s os broken t) (hs : s.failures = 0)
    (hlen : os.length < 2 ^ 32) :
    t.passed = true ↔ (∀ o ∈ os, o.isReply) ∨ 2 ^ 31 ≤ os.countP fun o => !o.isReply := by
  have hle : (os.countP fun o => !o.isReply) < 2 ^ 32 :=
    Nat.lt_of_le_of_lt List.countP_le_length hlen
  have hnone : (os.countP fun o => !o.isReply) = 0 ↔ ∀ o ∈ os, o.isReply := by
    simp [List.countP_eq_zero]
  unfold passed
  rw [h.failures, hs, decide_eq_true_iff, Int32.zero_add, word_nonpos_iff hle, hnone]

end Survey

end Prober

namespace CommandLine

open Prober Prober.Survey

/-- What a survey of `n` pings with these outcomes, and this breakdown after them, leaves. -/
structure Surveyed (n : Nat) (os : List Outcome) (broken : Option Breakdown) (r : Run) : Prop where
  lines : List.Forall₂ Tells (os.zipIdx 1) r.journal.lines
  handed : r.journal.handed =
    (List.range (os.length + broken.toList.length)).map fun i => Probe.build (.ofNat i)
  whole : broken = none → os.length = n ∧ r.errors = "" ∧ (r.status = some 0 ∨ r.status = some 1) ∧
    (r.status = some 0 ↔
      (∀ o ∈ os, o.isReply) ∨ 2 ^ 31 ≤ os.countP fun o => !o.isReply)
  failed : ∀ e, broken = some (.fault e) →
    os.length < n ∧ r.errors = "Error: Io(" ++ e.detail ++ ")\n" ∧ r.status = some 1
  late : broken = some .overflow → os.length < n ∧ r.status = some 101

/-- Without an interval the program is a survey. -/
lemma probe_eq_survey {w : Surroundings} {args : List String} {settings : Settings}
    {target own : Endpoint} (turns : Nat) (hargs : Settings.ofArgs args = .ok settings)
    (hinterval : settings.interval = none) (htarget : settings.resolve w.known = .ok target)
    (hbind : w.bind [] target.unbound = .ok own) :
    probe w turns args = Probe.ofSurvey (Survey.run w settings.count.toNat
      { prober := (Prober.start w target defaultTimeout).2 }) := by
  obtain ⟨p, hp⟩ : ∃ p, Prober.start w target defaultTimeout = (none, p) := by
    simp [Prober.start, hbind]
  unfold probe Probe.start
  simp only [hargs, htarget, hp, hinterval]

/-- What the course of a survey leaves that a new prober makes. -/
lemma surveyed_of_course {w : Surroundings} {target own : Endpoint} {n : Nat} {s t : Survey}
    {os : List Outcome} {broken : Option Breakdown} (hbind : w.bind [] target.unbound = .ok own)
    (hs : s = { prober := (Prober.start w target defaultTimeout).2 }) (hn : n < 2 ^ 32)
    (h : Course w s os broken t) (hwhole : broken = none → os.length = n)
    (hpart : ∀ b, broken = some b → os.length < n) :
    Surveyed n os broken (Probe.ofSurvey (broken, t)) := by
  have hjournal : s.prober.journal = [.bound target.unbound (.ok own)] := by
    simp [hs, Prober.start, hbind]
  have hnext : s.prober.next = 0 := by
    simp [hs, Prober.start, hbind]
  have hrun : (Probe.ofSurvey (broken, t)).journal = t.prober.journal := by
    rcases broken with _ | _ | _ <;> rfl
  have hlen : os.length < 2 ^ 32 := by
    rcases broken with _ | b
    · have heq := hwhole rfl
      omega
    · have hlt := hpart b rfl
      omega
  refine ⟨?_, ?_, ?_, ?_, ?_⟩
  · obtain ⟨ls, hlines, htold⟩ := h.lines
    have hno : s.no = 1 := by rw [hs]
    rw [hrun, hlines, hjournal, ← hno]
    exact htold
  · rw [hrun, h.handed, hjournal, hnext]
    simp [Journal.handed, Act.handed?]
  · rintro rfl
    have hnone : s.failures = 0 := by rw [hs]
    have hstatus : (Probe.ofSurvey (none, t)).status = some (if t.passed then 0 else 1) := rfl
    refine ⟨hwhole rfl, rfl, ?_, ?_⟩
    · rw [hstatus]
      rcases t.passed with _ | _
      · exact .inr rfl
      · exact .inl rfl
    · rw [← h.passed_iff hnone hlen, hstatus]
      rcases t.passed with _ | _ <;> simp
  · rintro e rfl
    have hopen : "Error: Io(" = "Error: " ++ "Io(" := rfl
    have hclose : ")\n" = ")" ++ "\n" := rfl
    refine ⟨hpart _ rfl, ?_, rfl⟩
    rw [hopen, hclose]
    simp only [Probe.ofSurvey, Probe.broken, Run.failed, Probe.detail, Error.detail,
      String.append_assoc]
  · rintro rfl
    exact ⟨hpart _ rfl, rfl⟩

/-- **What a survey leaves.** There is a line for each ping that was answered or timed out, a probe
for each ping that was made, and a status; a breakdown ends it all. -/
theorem probe_survey {w : Surroundings} {args : List String} {settings : Settings}
    {target own : Endpoint} (turns : Nat) (hargs : Settings.ofArgs args = .ok settings)
    (hinterval : settings.interval = none) (htarget : settings.resolve w.known = .ok target)
    (hbind : w.bind [] target.unbound = .ok own) :
    ∃ os broken t, Course w { prober := (Prober.start w target defaultTimeout).2 } os broken t ∧
      Surveyed settings.count.toNat os broken (probe w turns args) := by
  obtain ⟨s, hs⟩ : ∃ s : Survey, s = { prober := (Prober.start w target defaultTimeout).2 } :=
    ⟨_, rfl⟩
  obtain ⟨os, hcourse, hwhole, hpart⟩ := course_run w settings.count.toNat s
  have hsurveyed := surveyed_of_course hbind hs settings.count.toNat_lt hcourse hwhole hpart
  rw [probe_eq_survey turns hargs hinterval htarget hbind, ← hs]
  exact ⟨os, _, _, hcourse, hsurveyed⟩

/-- No probe goes out after the second. -/
def secondOnly : Surroundings where
  send j _ bytes := if j.sends < 2 then .ok bytes.length else .error .unreachable

/-- The first two of five pings time out, the third meets a fault. -/
theorem probe_survey_secondOnly :
    let args := ["uping-probe", "127.0.0.1", "9", "5"]
    let run := probe secondOnly 0 args
    Settings.ofArgs args = .ok ⟨"127.0.0.1", 9, 5, none⟩ ∧
      Settings.resolve secondOnly.known ⟨"127.0.0.1", 9, 5, none⟩ = .ok (.v4 .loopback 9) ∧
      (∃ os broken t, Course secondOnly
        { prober := (Prober.start secondOnly (.v4 .loopback 9) defaultTimeout).2 } os broken t ∧
        Surveyed 5 os broken run) ∧
      run.journal.lines = ["1: fail\n", "2: fail\n"] ∧ run.status = some 1 := by
  intro args run
  have hargs : Settings.ofArgs args = .ok ⟨"127.0.0.1", 9, 5, none⟩ := by decide +kernel
  have htarget : Settings.resolve secondOnly.known ⟨"127.0.0.1", 9, 5, none⟩ =
    .ok (.v4 .loopback 9) := by decide +kernel
  exact ⟨hargs, htarget, probe_survey 0 hargs rfl htarget rfl, by decide +kernel,
    by decide +kernel⟩

/-- Where nothing comes in, all pings time out. -/
lemma timeout_of_nothing {s t : Survey} {os : List Outcome} {broken : Option Breakdown}
    (h : Course {} s os broken t) (hinbox : s.prober.inbox = [])
    (htime : s.prober.timeout = defaultTimeout) :
    broken = none ∧ ∀ o ∈ os, o.isReply = false := by
  have hping : ∀ p : Prober, p.inbox = [] → p.timeout = defaultTimeout →
      ∃ q, p.ping {} = (.ok (.timeout p.next), q) ∧ q.inbox = [] ∧ q.timeout = p.timeout := by
    intro p hp ht
    have hqueue : p.queued {} = [] := by
      unfold Prober.queued
      rw [hp]
      rfl
    have htold : ({} : Surroundings).Tells p.journal p.timeout := by
      rw [ht]
      exact show 0 + defaultTimeout < horizon by decide
    rw [ping_of_sent rfl htold, hqueue, ht, if_neg (by decide)]
    exact ⟨_, rfl, rfl, ht ▸ rfl⟩
  induction h with
  | done s => exact ⟨rfl, List.forall_mem_nil _⟩
  | @failed s b p hp =>
    obtain ⟨q, hq, -⟩ := hping s.prober hinbox htime
    rw [hp] at hq
    cases hq
  | @pinged s t o p os broken hp _ ih =>
    obtain ⟨q, hq, hinbox', htime'⟩ := hping s.prober hinbox htime
    obtain ⟨ho, rfl⟩ := Prod.mk.inj (hp.symm.trans hq)
    obtain rfl := Except.ok.inj ho
    obtain ⟨hbroken, hall⟩ := ih hinbox' (htime'.trans htime)
    exact ⟨hbroken, List.forall_mem_cons.mpr ⟨rfl, hall⟩⟩

/-- The status may tell that all pings were answered when none was: the failures fill half of the
range of their word. -/
theorem not_isReply_of_status :
    ¬ ∀ (w : Surroundings) (turns : Nat) (args : List String) (settings : Settings)
      (target own : Endpoint) (os : List Outcome) (t : Survey),
      Settings.ofArgs args = .ok settings → settings.interval = none →
      settings.resolve w.known = .ok target → w.bind [] target.unbound = .ok own →
      Course w { prober := (Prober.start w target defaultTimeout).2 } os none t →
      os.length = settings.count.toNat →
      ((probe w turns args).status = some 0 ↔ ∀ o ∈ os, o.isReply) := by
  intro h
  have hargs : Settings.ofArgs ["uping-probe", "127.0.0.1", "9", "2147483648"] =
    .ok ⟨"127.0.0.1", 9, 2147483648, none⟩ := by decide +kernel
  have htarget : Settings.resolve .standalone ⟨"127.0.0.1", 9, 2147483648, none⟩ =
    .ok (.v4 .loopback 9) := by decide +kernel
  obtain ⟨s, hs⟩ : ∃ s : Survey,
    s = { prober := (Prober.start {} (.v4 .loopback 9) defaultTimeout).2 } := ⟨_, rfl⟩
  obtain ⟨os, hcourse, hwhole, hpart⟩ := course_run {} 2147483648 s
  have hprobe := probe_eq_survey (w := {}) 0 hargs rfl htarget rfl
  rw [← hs] at hprobe
  change _ = Probe.ofSurvey (Survey.run {} 2147483648 s) at hprobe
  generalize Survey.run {} 2147483648 s = x at *
  obtain ⟨broken, t⟩ := x
  have hinbox : s.prober.inbox = [] := by rw [hs]; rfl
  have htime : s.prober.timeout = defaultTimeout := by rw [hs]; rfl
  obtain ⟨rfl, hall⟩ := timeout_of_nothing hcourse hinbox htime
  have hlen : os.length = 2147483648 := hwhole rfl
  have hsurveyed := surveyed_of_course rfl hs (by decide) hcourse hwhole hpart
  rw [← hprobe] at hsurveyed
  obtain ⟨-, -, -, hstatus⟩ := hsurveyed.whole rfl
  have hcount : (os.countP fun o => !o.isReply) = os.length :=
    List.countP_eq_length.mpr fun o ho => by rw [hall o ho]; rfl
  have hlarge : 2 ^ 31 ≤ os.countP fun o => !o.isReply := by
    rw [hcount, hlen]
    decide
  rw [hs] at hcourse
  have hreplies := (h {} 0 _ _ _ _ os t hargs rfl htarget rfl hcourse hlen).mp
    (hstatus.mpr (.inr hlarge))
  rcases os with _ | ⟨o, os⟩
  · cases hlen
  · have htrue := hreplies o (by simp)
    rw [hall o (by simp)] at htrue
    cases htrue

end CommandLine

end PortEcho
