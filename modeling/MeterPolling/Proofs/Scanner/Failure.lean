import MeterPolling.Proofs.Scanner.Course
import MeterPolling.Proofs.Scanner.Report
/-!
How a scan ends: with its last address, or with the first probe that raises something, and in time.
Faults of the transport, however many and of whatever kind, do not end it. On every way out the
session and its client have the timeout of before the scan.
-/
namespace MeterPolling

variable {producers left : List Producer} {timeout delay : Number} {device : Int} {p : Producer}
  {r : Request} {exchange : Exchange} {link₀ link : Link} {s₀ s : Scanner}

namespace Trial

variable {bus : Bus} {waits : Option Number} {earlier : List Call} {next : List Call → List Trial}
  {trials : List Trial}

/-- Whichever of these probes raises something is the last one. -/
def LastRaises (trials : List Trial) : Prop :=
  ∀ before t after, trials = before ++ t :: after → (raised? t.result).isSome → after = []

theorem lastRaises_single (t : Trial) : LastRaises [t] := by
  intro before other after split _
  have count := congrArg List.length split
  simp only [List.length_append, List.length_cons, List.length_nil] at count
  exact List.eq_nil_of_length_eq_zero (by omega)

theorem LastRaises.cons {t : Trial} (last : LastRaises trials) (quiet : raised? t.result = none) :
    LastRaises (t :: trials) := by
  intro before other after split raised
  cases before with
  | nil =>
    cases split
    rw [quiet] at raised
    cases raised
  | cons first before =>
    cases split
    exact last before other after rfl raised

theorem visit_lastRaises (later : ∀ earlier, LastRaises (next earlier)) (producers : List Producer)
    (earlier : List Call) : LastRaises (visit bus waits next device producers earlier) := by
  induction producers generalizing earlier with
  | nil => exact later earlier
  | cons p left ih =>
    cases raised : raised? (p.trial bus waits earlier device).result with
    | some f =>
      rw [visit_raised raised]
      exact lastRaises_single _
    | none =>
      cases result : (p.trial bus waits earlier device).result with
      | ok bytes =>
        rw [visit_replied result]
        exact (later _).cons raised
      | error f =>
        cases f with
        | transport fault =>
          rw [visit_fault result]
          exact (ih _).cons raised
        | _ =>
          rw [result] at raised
          cases raised

theorem sweep_lastRaises (producers : List Producer) (devices : List Int) (earlier : List Call) :
    LastRaises (sweep bus waits producers devices earlier) := by
  induction devices generalizing earlier with
  | nil =>
    intro before t after split
    simp [sweep] at split
  | cons device rest ih => exact visit_lastRaises ih producers earlier

end Trial

namespace Scanner

/-! ## Every scan ends -/

inductive Ends : Scanner → Link → Prop where
  | ended {s : Scanner} {link : Link} : s.hasEnded = true → Ends s link
  | step {s : Scanner} {link : Link} : Ends (s.step link).1 (s.step link).2.1 → Ends s link

/-- Whatever else there is to them, scans with the pause before this address end. -/
def EndsAfter (device : Int) : Prop := ∀ s link, s.stage = .pacing device → Ends s link

theorem pace_ends (later : EndsAfter device) :
    Ends (s.pace device link).1 (s.pace device link).2.1 := by
  unfold pace
  split
  · exact later _ _ rfl
  · exact .ended rfl

theorem goOn_ends (later : device < Device.last → EndsAfter (device + 1)) :
    Ends (s.goOn device link).1 (s.goOn device link).2.1 := by
  unfold goOn
  split
  · rename_i before_last
    exact pace_ends (later before_last)
  · exact .ended rfl

/-- A probe that has ended is followed by the next address, or by the end of the scan. -/
theorem over_ends {probe : Probe} (later : device < Device.last → EndsAfter (device + 1))
    (ended : probe.hasEnded = true) (probing : s.stage = .probing device probe) : Ends s link := by
  apply Ends.step
  unfold step
  rw [probing]
  cases probe with
  | found p => exact goOn_ends later
  | absent => exact goOn_ends later
  | failed f => exact .ended rfl
  | trying left => cases ended
  | waiting p r exchange left => cases ended

theorem waiting_ends (later : device < Device.last → EndsAfter (device + 1))
    (retries : ∀ s link, s.stage = .probing device (.trying left) → Ends s link)
    (probing : s.stage = .probing device (.waiting p r exchange left)) : Ends s link := by
  apply Ends.step
  have settled : (s.step link).1.stage =
      .probing device (Probe.settle device p r exchange left link).1 := by
    unfold step
    rw [probing]
    rfl
  cases came : (Probe.settle device p r exchange left link).1 with
  | trying rest =>
    have same : rest = left := by
      unfold Probe.settle at came
      split at came
      · split at came <;> cases came
      · cases came
        rfl
      · cases came
    rw [came, same] at settled
    exact retries _ _ settled
  | waiting p' r' exchange' rest =>
    unfold Probe.settle at came
    split at came
    · split at came <;> cases came
    all_goals cases came
  | _ =>
    rw [came] at settled
    exact over_ends later rfl settled

/-- The producers that are left at an address come to their end one after the other. -/
theorem trying_ends (later : device < Device.last → EndsAfter (device + 1)) (left : List Producer) :
    ∀ s link, s.stage = .probing device (.trying left) → Ends s link := by
  induction left with
  | nil =>
    intro s link probing
    apply Ends.step
    refine over_ends later (show Probe.absent.hasEnded = true from rfl) ?_
    unfold step
    rw [probing]
    rfl
  | cons p left ih =>
    intro s link probing
    apply Ends.step
    have tried : (s.step link).1.stage =
        .probing device ((Probe.trying (p :: left)).step device link).1 := by
      unfold step
      rw [probing]
    unfold Probe.step at tried
    simp only at tried
    split at tried
    · exact over_ends later rfl tried
    · split at tried
      · exact over_ends later rfl tried
      · split at tried
        · exact waiting_ends later ih tried
        · exact over_ends later rfl tried

theorem pacing_ends (n : Nat) : ∀ device, Device.last - device < n → EndsAfter device := by
  induction n with
  | zero =>
    intro device beyond s link pacing
    apply Ends.step
    refine trying_ends (fun before_last : device < Device.last => by omega) s.producers _ _ ?_
    unfold step
    rw [pacing]
  | succ n ih =>
    intro device within s link pacing
    apply Ends.step
    refine trying_ends (fun _ : device < Device.last => ih _ (by omega)) s.producers _ _ ?_
    unfold step
    rw [pacing]

/-- Wherever a scan is, some more steps end it. -/
theorem ends (s : Scanner) (link : Link) : Ends s link := by
  have after (device : Int) : EndsAfter device :=
    pacing_ends ((Device.last - device).toNat + 1) device (by omega)
  cases stage : s.stage with
  | starting =>
    apply Ends.step
    unfold step
    rw [stage]
    exact pace_ends (after _)
  | pacing device => exact after device s link stage
  | probing device probe =>
    cases probe with
    | trying left => exact trying_ends (fun _ => after _) left s link stage
    | waiting p r exchange left =>
      exact waiting_ends (fun _ => after _) (trying_ends (fun _ => after _) left) stage
    | _ => exact over_ends (fun _ => after _) rfl stage
  | _ => exact .ended (by rw [hasEnded, stage])

/-! ## The ends of a scan -/

/-- A scan that began on the first link, as it is seen from outside: where it has come to, and how it
has ended. -/
structure Conduct (s₀ : Scanner) (link₀ : Link) (s : Scanner) (link : Link) : Prop where
  /-- The calls of the probes are made in order, all of them under the timeout of the scanner. -/
  calls : ∃ made, made <+: Trial.asked (s₀.trials link₀) ∧
    link.recorded Event.asked? = link₀.recorded Event.asked? ++ made.map (·, s₀.timeout) ∧
    ((Pause.ofDelay? s₀.probeDelay).isSome → s.hasEnded = true → s.stage ≠ .cancelled →
      made = Trial.asked (s₀.trials link₀))
  /-- Nothing is asked after a probe that raises something. -/
  last : Trial.LastRaises (s₀.trials link₀)
  /-- The scan raises what a probe of it raises, and raises nothing else. -/
  raises : (Pause.ofDelay? s₀.probeDelay).isSome → s.hasEnded = true → s.stage ≠ .cancelled →
    ∀ f, s.stage = .failed f ↔ ∃ t ∈ s₀.trials link₀, raised? t.result = some f
  faults : ∀ fault, s.stage ≠ .failed (.transport fault)
  restores : s.hasEnded = true → Restores link₀ link
  ends : Ends s link

theorem raised_proper {t : Trial} {f : Failure} (raised : raised? t.result = some f)
    (fault : TransportFault) : f ≠ .transport fault := by
  rintro rfl
  obtain ⟨failed, proper⟩ := raised_some raised
  rw [failed] at proper
  cases proper

theorem OnCourse.restores (course : OnCourse s₀ link₀ s link) (ended : s.hasEnded = true) :
    Restores link₀ link := by
  unfold OnCourse at course
  unfold hasEnded at ended
  split at ended
  · rename_i stage
    rw [stage] at course
    exact course.1
  · rename_i stage
    rw [stage] at course
    exact course.1
  · rename_i stage
    rw [stage] at course
    exact course.1
  · cases ended

theorem OnCourse.within (course : OnCourse s₀ link₀ s link) : Within s₀ link₀ link := by
  unfold OnCourse at course
  split at course
  · exact ⟨[], List.nil_prefix, course.2.2⟩
  · obtain ⟨_, _, _, under⟩ := course
    exact under.within List.nil_prefix
  · obtain ⟨_, _, _, _, _, under, heads⟩ := course
    exact under.within heads.pending_part
  · exact ⟨_, List.prefix_refl _, course.2.2⟩
  · rcases course.2 with ⟨_, _, made⟩ | ⟨_, _, within⟩
    · exact ⟨_, List.prefix_refl _, made⟩
    · exact within
  · exact course.2

/-- Where the scan was not cancelled, all calls were made, and either no probe raised anything or one
raised just what the scan did. -/
theorem OnCourse.ended (course : OnCourse s₀ link₀ s link)
    (paced : (Pause.ofDelay? s₀.probeDelay).isSome) (ended : s.hasEnded = true)
    (uncancelled : s.stage ≠ .cancelled) :
    Link.Gains s₀.timeout link₀ link (Trial.asked (s₀.trials link₀)) ∧
      ∀ f, s.stage = .failed f ↔ ∃ t ∈ s₀.trials link₀, raised? t.result = some f := by
  unfold OnCourse at course
  unfold hasEnded at ended
  split at ended
  · rename_i stage
    rw [stage] at course ⊢
    obtain ⟨_, quiet, made⟩ := course
    refine ⟨made, fun f => ⟨?_, ?_⟩⟩
    · intro failed
      cases failed
    · rintro ⟨t, member, raised⟩
      rw [quiet t member] at raised
      cases raised
  · rename_i g stage
    rw [stage] at course ⊢
    rcases course.2 with ⟨raises, quiet, made⟩ | ⟨endless, _, _⟩
    · refine ⟨made, fun f => ⟨?_, ?_⟩⟩
      · intro failed
        cases failed
        exact raises
      · rintro ⟨t, member, raised⟩
        rcases quiet t member with none | same
        · rw [none] at raised
          cases raised
        · rw [same] at raised
          cases raised
          rfl
    · rw [endless] at paced
      cases paced
  · rename_i stage
    exact absurd stage uncancelled
  · cases ended

theorem OnCourse.faults (course : OnCourse s₀ link₀ s link) (fault : TransportFault) :
    s.stage ≠ .failed (.transport fault) := by
  intro stage
  unfold OnCourse at course
  rw [stage] at course
  rcases course.2 with ⟨⟨t, _, raised⟩, _⟩ | ⟨_, same, _⟩
  · exact raised_proper raised fault rfl
  · cases same

/-- Whatever the producers, the bus, the timeout and the moment of a cancellation: a scan raises
exactly what one of its probes raises, after which nothing is asked, and it leaves the timeout as it
found it. -/
theorem Run.raises_what_a_probe_raises (run : Run (make producers timeout delay) link₀ s link) :
    Conduct (make producers timeout delay) link₀ s link := by
  have course := run.onCourse
  constructor
  case calls =>
    obtain ⟨made, part, gains⟩ := course.within
    refine ⟨made, part, gains.asked, fun paced ended uncancelled => ?_⟩
    have all := (course.ended paced ended uncancelled).1.made
    rw [gains.made] at all
    exact List.reverse_injective (List.append_cancel_right all)
  case last => exact Trial.sweep_lastRaises _ _ _
  case raises =>
    intro paced ended uncancelled
    exact (course.ended paced ended uncancelled).2
  case faults => exact course.faults
  case restores => exact course.restores
  case ends => exact s.ends link

/-- A line on which the client breaks down at the third address, where nobody answered before. -/
def brokenBus : Bus where
  opening := .connects true
  copiesTimeout := true
  reply _ call := if call.device = 3 then .answered none (.raised ⟨.runtime, "gone"⟩) else .silence

def brokenLink : Link :=
  (Link.make brokenBus (.make "/dev/ttyUSB0" .b9600n false) false).openPort.1

/-- The producer that lacks its register is not even tried, and the client is asked three times. -/
theorem broken_raises :
    let producers := [plain "holding" 3, ⟨"Plain", "bare", 3, "Freq", []⟩]
    let first := (make (producers.take 1) 1 0).run brokenLink
    let second := (make producers 1 0).run brokenLink
    first.1.stage = .failed (.client ⟨.runtime, "gone"⟩) ∧
      first.2.recorded Event.asked? =
        [(⟨3, 0, 2, 1⟩, 1), (⟨3, 0, 2, 2⟩, 1), (⟨3, 0, 2, 3⟩, 1)] ∧
      first.2.session.timeout = Session.defaultTimeout ∧
      Conduct (make (producers.take 1) 1 0) brokenLink first.1 first.2 ∧
      second.1.stage = .failed (.unknownLabel "Freq") ∧
      Conduct (make producers 1 0) brokenLink second.1 second.2 := by
  intro producers first second
  have stage : first.1.stage = .failed (.client ⟨.runtime, "gone"⟩) := by decide +kernel
  have asked : first.2.recorded Event.asked? =
      [(⟨3, 0, 2, 1⟩, 1), (⟨3, 0, 2, 2⟩, 1), (⟨3, 0, 2, 3⟩, 1)] := by decide +kernel
  have timeout : first.2.session.timeout = Session.defaultTimeout := by decide +kernel
  have unlabelled : second.1.stage = .failed (.unknownLabel "Freq") := by decide +kernel
  exact ⟨stage, asked, timeout, (run_runs _ brokenLink).raises_what_a_probe_raises, unlabelled,
    (run_runs _ brokenLink).raises_what_a_probe_raises⟩

end Scanner

end MeterPolling
