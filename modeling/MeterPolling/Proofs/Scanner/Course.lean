import MeterPolling.Proofs.Scanner.Trials
import MeterPolling.Proofs.Session.Timeout
/-!
A scanner is always on its course: some of the probes are passed, of which none raised anything, and
the calls on record are theirs, with at most the one that is under way. Whichever way the scan is
left, at its end, by a failure or by a cancellation, the timeout of before is set again.
-/
namespace MeterPolling

variable {bus : Bus} {waits : Option Number} {timeout delay : Number} {device : Int} {p : Producer}
  {left producers : List Producer} {next : List Call → List Trial} {probe : Probe} {r : Request}
  {exchange : Exchange} {ahead ahead' : List Trial} {pending pending' made : List Call}
  {link₀ link link' : Link} {s₀ s : Scanner}

/-- Some of the probes ahead are passed between two moments, and none of them raised anything. Of the
first one that is still ahead these calls were made. -/
structure Passes (timeout : Number) (link link' : Link) (ahead : List Trial) (pending : List Call)
    (ahead' : List Trial) (pending' : List Call) : Prop where
  passed : ∃ past calls, ahead = past ++ ahead' ∧ (∀ t ∈ past, raised? t.result = none) ∧
    pending ++ calls = Trial.asked past ++ pending' ∧ Link.Gains timeout link link' calls
  waits : link'.waits = link.waits

/-- Nothing is passed, but some calls are made for the first probe. -/
theorem Passes.begins {calls : List Call} (gains : Link.Gains timeout link link' calls)
    (waits : link'.waits = link.waits) : Passes timeout link link' ahead [] ahead calls :=
  ⟨⟨[], calls, rfl, by simp, rfl, gains⟩, waits⟩

/-- The probe whose calls were made before is passed. -/
theorem Passes.one {t : Trial} (quiet : raised? t.result = none)
    (gains : Link.Gains timeout link link' []) (waits : link'.waits = link.waits) :
    Passes timeout link link' (t :: ahead) t.calls ahead [] := by
  refine ⟨⟨[t], [], rfl, ?_, ?_, gains⟩, waits⟩
  · simpa using quiet
  · simp [Trial.asked]

namespace Probe

/-- Which probes are still ahead of the probing of an address, and which calls were made for the
first of them. -/
def Heads (bus : Bus) (waits : Option Number) (next : List Call → List Trial) (device : Int)
    (made : List Call) (ahead : List Trial) (pending : List Call) : Probe → Prop
  | .trying left => ahead = Trial.visit bus waits next device left made ∧ pending = []
  | .waiting p r exchange left =>
    ∃ earlier, made = r.call :: earlier ∧ pending = [r.call] ∧ p.probe device = .ok r ∧
      r.fate bus waits earlier = ([r.call], exchange.settle) ∧
      ahead = Trial.visit bus waits next device (p :: left) earlier
  | .found _ | .absent => ahead = next made ∧ pending = []
  | .failed f => ∃ t, ahead = [t] ∧ raised? t.result = some f ∧ pending = t.calls

def Proceeds (bus : Bus) (waits : Option Number) (timeout : Number) (next : List Call → List Trial)
    (device : Int) (link : Link) (ahead : List Trial) (pending : List Call)
    (result : Probe × Link) : Prop :=
  ∃ ahead' pending', Passes timeout link result.2 ahead pending ahead' pending' ∧
    result.1.Heads bus waits next device result.2.made ahead' pending'

/-- A probe that raises something is the last one. -/
theorem raises {f : Failure} {t : Trial} {calls : List Call} (last : ahead = [t])
    (raised : raised? t.result = some f) (own : t.calls = calls)
    (gains : Link.Gains timeout link link' calls) (waits' : link'.waits = link.waits) :
    Proceeds bus waits timeout next device link ahead [] (.failed f, link') :=
  ⟨ahead, calls, .begins gains waits', t, last, raised, own.symm⟩

theorem Heads.trying (heads : (trying (p :: left)).Heads bus waits next device link.made ahead pending)
    (same : link.bus = bus) (patient : ∀ t, waits = some t → t = timeout)
    (waiting : link.waits = waits) :
    Proceeds bus waits timeout next device link ahead pending
      (((trying (p :: left)).step device link).1, ((trying (p :: left)).step device link).2.1) := by
  obtain ⟨rfl, rfl⟩ := heads
  unfold step
  simp only
  cases probed : p.probe device with
  | error f =>
    have trial : p.trial bus waits link.made device = _ := Producer.trial_unprobed probed
    have raised : raised? (p.trial bus waits link.made device).result = some f := by
      rw [trial, (Producer.probe_error probed).1]
      rfl
    exact raises (Trial.visit_raised raised) raised (by rw [trial]) (.refl link) rfl
  | ok r =>
    have trial : p.trial bus waits link.made device = _ := Producer.trial_probed probed
    have begins := link.beginQuery_begins r
    simp only
    generalize link.beginQuery r = begun at begins
    cases begins with
    | refused f refusal =>
      have raised : raised? (p.trial bus waits link.made device).result = some f := by
        rw [trial]
        exact raised_refused refusal
      refine raises (Trial.visit_raised raised) raised ?_ (.refl link) rfl
      rw [trial, Request.fate_refused refusal]
    | clientless link' accepted absent gains still =>
      have closed : waits = none := by simpa [Link.waits, absent] using waiting.symm
      subst closed
      rw [Request.fate_clientless accepted] at trial
      have raised : raised? (p.trial bus none link.made device).result = some .missingPart := by
        rw [trial]
        rfl
      exact raises (Trial.visit_raised raised) raised (by rw [trial]) (gains timeout) still
    | asks link' t accepted waits' gains still =>
      have known : waits = some t := waiting.symm.trans waits'
      subst known
      obtain rfl := patient t rfl
      rw [same]
      simp only
      cases length : (bus.exchange t link.made r.call).pause? with
      | none =>
        rw [Request.fate_endless accepted length] at trial
        have raised : raised? (p.trial bus (some t) link.made device).result = some .tooLarge := by
          rw [trial]
          rfl
        exact raises (Trial.visit_raised raised) raised (by rw [trial]) gains still
      | some pause =>
        have fate := Request.fate_asked accepted (Option.isSome_of_eq_some length)
        refine ⟨_, [r.call], .begins gains still, link.made, gains.made, rfl, probed, ?_, rfl⟩
        rw [fate, Bus.exchange_settle]

/-- A reply to a probe can be decoded. -/
theorem decodes {earlier : List Call} {bytes : List UInt8} (probed : p.probe device = .ok r)
    (replied : (r.fate bus waits earlier).2 = .ok bytes) :
    ∃ value, r.decoder.decode bytes = .ok value := by
  obtain ⟨value, answered⟩ := (Producer.probe_fits probed).answered (Request.fate_ok replied)
  obtain ⟨_, same, decoded⟩ := Request.verdict_answered answered
  cases same
  exact ⟨value, decoded⟩

theorem Heads.waiting
    (heads : (waiting p r exchange left).Heads bus waits next device link.made ahead pending) :
    Proceeds bus waits timeout next device link ahead pending
      (settle device p r exchange left link) := by
  obtain ⟨earlier, made, rfl, probed, fate, rfl⟩ := heads
  have trial : p.trial bus waits earlier device = _ := Producer.trial_probed probed
  have gains : Link.Gains timeout link (link.settleQuery exchange).1 [] :=
    link.settleQuery_gains exchange
  have still := link.settleQuery_waits exchange
  have reply := link.settleQuery_reply exchange
  have own : (p.trial bus waits earlier device).calls = [r.call] := by rw [trial, fate]
  have later : (p.trial bus waits earlier device).calls.reverse ++ earlier = link.made := by
    rw [own, made]
    rfl
  have came : (p.trial bus waits earlier device).result = exchange.settle := by rw [trial, fate]
  rw [← own]
  unfold settle
  generalize link.settleQuery exchange = settled at gains still reply ⊢
  obtain ⟨link', result⟩ := settled
  have here : link.made = link'.made := gains.made.symm
  rw [← reply] at came
  cases result with
  | ok bytes =>
    have replied : (r.fate bus waits earlier).2 = .ok bytes := by rw [fate, ← reply]
    obtain ⟨value, decoded⟩ := decodes probed replied
    have quiet : raised? (p.trial bus waits earlier device).result = none := by
      rw [came]
      rfl
    simp only [decoded]
    rw [Trial.visit_replied came, later]
    refine ⟨_, _, .one quiet (gains.still (link'.note_gains _)) still, ?_, rfl⟩
    rw [here]
    rfl
  | error f =>
    by_cases fault : isFault (.error f : Except Failure (List UInt8)) = true
    · obtain ⟨fault, same⟩ := isFault_iff.mp fault
      cases same
      have quiet : raised? (p.trial bus waits earlier device).result = none := by
        rw [came]
        rfl
      rw [Trial.visit_fault came, later]
      exact ⟨_, _, .one quiet gains still, by rw [here], rfl⟩
    · have raised : raised? (p.trial bus waits earlier device).result = some f := by
        rw [came]
        exact raised_error (Bool.eq_false_iff.mpr fault)
      have stays : Proceeds bus waits timeout next device link
          (Trial.visit bus waits next device (p :: left) earlier)
          (p.trial bus waits earlier device).calls (.failed f, link') :=
        ⟨_, _, ⟨⟨[], [], rfl, by simp, by simp [Trial.asked], gains⟩, still⟩, _,
          Trial.visit_raised raised, raised, rfl⟩
      cases f with
      | transport fault => exact absurd rfl fault
      | _ => exact stays

/-- A step of a probe that has not ended. -/
theorem Heads.step (heads : probe.Heads bus waits next device link.made ahead pending)
    (alive : probe.hasEnded = false) (same : link.bus = bus)
    (patient : ∀ t, waits = some t → t = timeout) (waiting : link.waits = waits) :
    Proceeds bus waits timeout next device link ahead pending
      ((probe.step device link).1, (probe.step device link).2.1) := by
  cases probe with
  | trying left =>
    cases left with
    | nil =>
      obtain ⟨rfl, rfl⟩ := heads
      exact ⟨_, [], .begins (.refl link) rfl, rfl, rfl⟩
    | cons p left => exact heads.trying same patient waiting
  | waiting p r exchange left => exact heads.waiting
  | found p => cases alive
  | absent => cases alive
  | failed f => cases alive

/-- No more calls were made than those of the first probe ahead. -/
theorem Heads.pending_part (heads : probe.Heads bus waits next device made ahead pending) :
    pending <+: Trial.asked ahead := by
  cases probe with
  | waiting p r exchange left =>
    obtain ⟨earlier, _, rfl, probed, fate, rfl⟩ := heads
    have own : (p.trial bus waits earlier device).calls = [r.call] := by
      rw [Producer.trial_probed probed, fate]
    rw [Trial.visit, Trial.asked, List.flatMap_cons, own]
    exact List.prefix_append _ _
  | failed f =>
    obtain ⟨t, rfl, _, rfl⟩ := heads
    simp [Trial.asked]
  | _ =>
    obtain ⟨_, rfl⟩ := heads
    exact List.nil_prefix

end Probe

namespace Scanner

structure Underway (s₀ : Scanner) (link₀ : Link) (s : Scanner) (link : Link) (ahead : List Trial)
    (pending : List Call) : Prop where
  same : s.producers = s₀.producers ∧ s.probeDelay = s₀.probeDelay
  previous : s.previous = link₀.session.timeout
  waits : link.waits = link₀.session.client.map fun _ => s₀.timeout
  passed : ∃ past, s₀.trials link₀ = past ++ ahead ∧ (∀ t ∈ past, raised? t.result = none) ∧
    Link.Gains s₀.timeout link₀ link (Trial.asked past ++ pending)

/-- The session has the timeout of before the scan, and so have the copies of its client. A scan that
was left before it began has not touched them. -/
def Restores (link₀ link : Link) : Prop :=
  link.session.timeout = link₀.session.timeout ∧
    (link.session.Coherent ∨ link.session = link₀.session)

/-- The calls that were made are some of the first ones of the scan. -/
def Within (s₀ : Scanner) (link₀ link : Link) : Prop :=
  ∃ made, made <+: Trial.asked (s₀.trials link₀) ∧ Link.Gains s₀.timeout link₀ link made

def sweepFrom (s₀ : Scanner) (link₀ : Link) : List Int → List Call → List Trial :=
  Trial.sweep link₀.bus (link₀.session.client.map fun _ => s₀.timeout) s₀.producers

def OnCourse (s₀ : Scanner) (link₀ : Link) (s : Scanner) (link : Link) : Prop :=
  match s.stage with
  | .starting =>
    (s.producers = s₀.producers ∧ s.probeDelay = s₀.probeDelay ∧ s.timeout = s₀.timeout) ∧
      link.session = link₀.session ∧ Link.Gains s₀.timeout link₀ link []
  | .pacing device =>
    ∃ before after, Device.all = before ++ device :: after ∧
      Underway s₀ link₀ s link (s₀.sweepFrom link₀ (device :: after) link.made) []
  | .probing device probe =>
    ∃ before after ahead pending, Device.all = before ++ device :: after ∧
      Underway s₀ link₀ s link ahead pending ∧
      probe.Heads link₀.bus (link₀.session.client.map fun _ => s₀.timeout)
        (s₀.sweepFrom link₀ after) device link.made ahead pending
  | .done =>
    Restores link₀ link ∧ (∀ t ∈ s₀.trials link₀, raised? t.result = none) ∧
      Link.Gains s₀.timeout link₀ link (Trial.asked (s₀.trials link₀))
  | .failed f =>
    Restores link₀ link ∧
      (((∃ t ∈ s₀.trials link₀, raised? t.result = some f) ∧
          (∀ t ∈ s₀.trials link₀, raised? t.result = none ∨ raised? t.result = some f) ∧
          Link.Gains s₀.timeout link₀ link (Trial.asked (s₀.trials link₀))) ∨
        Pause.ofDelay? s₀.probeDelay = none ∧ f = .tooLarge ∧ Within s₀ link₀ link)
  | .cancelled => Restores link₀ link ∧ Within s₀ link₀ link

theorem setTimeout_restores {previous : Number} (same : previous = link₀.session.timeout) :
    Restores link₀ (link.setTimeout previous) :=
  ⟨same, .inl (link.session.setTimeout_coherent previous)⟩

theorem Restores.note (restores : Restores link₀ link) (notice : Notice) :
    Restores link₀ (link.note notice) := restores

theorem Within.gains (within : Within s₀ link₀ link) (gains : Link.Gains s₀.timeout link link' []) :
    Within s₀ link₀ link' := by
  obtain ⟨made, part, made'⟩ := within
  exact ⟨made, part, made'.still gains⟩

/-- The stage and the report do not matter. -/
theorem Underway.congr {s' : Scanner} (under : Underway s₀ link₀ s link ahead pending)
    (producers : s'.producers = s.producers) (delay : s'.probeDelay = s.probeDelay)
    (previous : s'.previous = s.previous) : Underway s₀ link₀ s' link ahead pending where
  same := ⟨producers.trans under.same.1, delay.trans under.same.2⟩
  previous := previous.trans under.previous
  waits := under.waits
  passed := under.passed

theorem Underway.gains (under : Underway s₀ link₀ s link ahead pending)
    (gains : Link.Gains s₀.timeout link link' []) (waits : link'.waits = link.waits) :
    Underway s₀ link₀ s link' ahead pending := by
  obtain ⟨past, split, quiet, made⟩ := under.passed
  exact ⟨under.same, under.previous, waits.trans under.waits, past, split, quiet, made.still gains⟩

theorem Underway.passes (under : Underway s₀ link₀ s link ahead pending)
    (passes : Passes s₀.timeout link link' ahead pending ahead' pending') :
    Underway s₀ link₀ s link' ahead' pending' := by
  obtain ⟨past, split, quiet, made⟩ := under.passed
  obtain ⟨⟨more, calls, rfl, quiet', same, gains⟩, waits⟩ := passes
  refine ⟨under.same, under.previous, waits.trans under.waits, past ++ more, ?_, ?_, ?_⟩
  · rw [split, List.append_assoc]
  · exact List.forall_mem_append.mpr ⟨quiet, quiet'⟩
  · have all := made.trans gains
    rwa [List.append_assoc, same, ← List.append_assoc, ← Trial.asked_append] at all

theorem Underway.within (under : Underway s₀ link₀ s link ahead pending)
    (part : pending <+: Trial.asked ahead) : Within s₀ link₀ link := by
  obtain ⟨past, split, quiet, made⟩ := under.passed
  refine ⟨_, ?_, made⟩
  rw [split, Trial.asked_append]
  exact (List.prefix_append_right_inj _).mpr part

theorem Underway.same_bus (under : Underway s₀ link₀ s link ahead pending) : link.bus = link₀.bus := by
  obtain ⟨_, _, _, made⟩ := under.passed
  exact made.bus

/-! ## The steps of a scanner -/

theorem pace_onCourse (before : List Int) {after : List Int}
    (split : Device.all = before ++ device :: after)
    (under : Underway s₀ link₀ s link (s₀.sweepFrom link₀ (device :: after) link.made) []) :
    OnCourse s₀ link₀ (s.pace device link).1 (s.pace device link).2.1 := by
  unfold pace
  split
  · exact ⟨before, after, split, under.congr rfl rfl rfl⟩
  · rename_i endless
    rw [under.same.2] at endless
    have within := (under.within List.nil_prefix).gains (link.setTimeout_gains s.previous)
    exact ⟨setTimeout_restores under.previous, .inr ⟨endless, rfl, within⟩⟩

theorem finish_onCourse (under : Underway s₀ link₀ s link [] []) :
    OnCourse s₀ link₀ (s.finish link).1 (s.finish link).2.1 := by
  obtain ⟨past, split, quiet, made⟩ := under.passed
  rw [List.append_nil] at split made
  refine ⟨?_, ?_, ?_⟩
  · exact s.finish_keeps (fun _ _ restores => restores.note _) (setTimeout_restores under.previous)
  · rwa [split]
  · rw [split]
    exact s.finish_keeps (P := fun next => Link.Gains s₀.timeout link₀ next (Trial.asked past))
      (fun next notice gains => gains.still (next.note_gains notice))
      (made.still (link.setTimeout_gains _))

theorem goOn_onCourse {before after : List Int} (split : Device.all = before ++ device :: after)
    (under : Underway s₀ link₀ s link (s₀.sweepFrom link₀ after link.made) []) :
    OnCourse s₀ link₀ (s.goOn device link).1 (s.goOn device link).2.1 := by
  unfold goOn
  rcases Device.all_goes_on split with ⟨before_last, rest, rfl⟩ | ⟨at_last, rfl⟩
  · rw [if_pos before_last]
    refine pace_onCourse (before ++ [device]) ?_ under
    rw [split, List.append_assoc]
    rfl
  · rw [if_neg at_last]
    exact finish_onCourse under

theorem probing_onCourse (probing : s.stage = .probing device probe)
    (course : OnCourse s₀ link₀ s link) :
    OnCourse s₀ link₀ (s.step link).1 (s.step link).2.1 := by
  unfold OnCourse at course
  unfold step
  rw [probing] at course ⊢
  obtain ⟨before, after, ahead, pending, split, under, heads⟩ := course
  cases alive : probe.hasEnded with
  | false =>
    have patient : ∀ t, (link₀.session.client.map fun _ => s₀.timeout) = some t →
        t = s₀.timeout := by simp +contextual
    have proceeds := heads.step alive under.same_bus patient under.waits
    obtain ⟨ahead', pending', passes, heads'⟩ := proceeds
    have later := under.passes passes
    cases probe with
    | trying left => exact ⟨before, after, _, _, split, later.congr rfl rfl rfl, heads'⟩
    | waiting p r exchange left => exact ⟨before, after, _, _, split, later.congr rfl rfl rfl, heads'⟩
    | _ => cases alive
  | true =>
    cases probe with
    | trying left => cases alive
    | waiting p r exchange left => cases alive
    | found p =>
      obtain ⟨rfl, rfl⟩ := heads
      exact goOn_onCourse split (under.congr rfl rfl rfl)
    | absent =>
      obtain ⟨rfl, rfl⟩ := heads
      have noted := under.gains (link.note_gains (.deviceAbsent device)) rfl
      exact goOn_onCourse split (noted.congr rfl rfl rfl)
    | failed f =>
      obtain ⟨t, rfl, raised, rfl⟩ := heads
      obtain ⟨past, all, quiet, made⟩ := under.passed
      refine ⟨setTimeout_restores under.previous, .inl ?_⟩
      rw [all]
      refine ⟨⟨t, by simp, raised⟩, ?_, ?_⟩
      · intro t member
        rcases List.mem_append.mp member with passed | last
        · exact .inl (quiet t passed)
        · rw [List.mem_singleton.mp last]
          exact .inr raised
      · rw [Trial.asked_append]
        have own : Trial.asked [t] = t.calls := by simp [Trial.asked]
        rw [own]
        exact made.still (link.setTimeout_gains _)

theorem step_onCourse (course : OnCourse s₀ link₀ s link) :
    OnCourse s₀ link₀ (s.step link).1 (s.step link).2.1 := by
  cases stage : s.stage with
  | probing device probe => exact probing_onCourse stage course
  | starting =>
    unfold OnCourse at course
    unfold step
    rw [stage] at course ⊢
    obtain ⟨⟨producers, delay, timeout⟩, session, gains⟩ := course
    have noted := gains.still (link.note_gains .scanStarted)
    have set := noted.still (Link.setTimeout_gains (link.note .scanStarted) s.timeout)
    obtain ⟨rest, all⟩ : ∃ rest, Device.all = Device.first :: rest := ⟨_, rfl⟩
    refine pace_onCourse [] all
      ⟨⟨producers, delay⟩, congrArg Session.timeout session, ?_, [], ?_, by simp, set⟩
    · rw [Link.setTimeout_waits, timeout, ← session]
      rfl
    · have made := set.made
      rw [List.reverse_nil, List.nil_append] at made
      rw [made, ← all]
      rfl
  | pacing device =>
    unfold OnCourse at course
    unfold step
    rw [stage] at course ⊢
    obtain ⟨before, after, split, under⟩ := course
    refine ⟨before, after, _, [], split, under.congr rfl rfl rfl, ?_, rfl⟩
    rw [under.same.1]
    rfl
  | _ =>
    unfold step
    rw [stage]
    exact course

theorem OnCourse.setNow (course : OnCourse s₀ link₀ s link) (now : Binary64) :
    OnCourse s₀ link₀ s { link with now := now } := by
  have gains : Link.Gains s₀.timeout link { link with now := now } [] := link.setNow_gains now
  unfold OnCourse at course ⊢
  cases stage : s.stage with
  | starting =>
    rw [stage] at course
    exact ⟨course.1, course.2.1, course.2.2.still gains⟩
  | pacing device =>
    rw [stage] at course
    obtain ⟨before, after, split, under⟩ := course
    exact ⟨before, after, split, under.gains gains rfl⟩
  | probing device probe =>
    rw [stage] at course
    obtain ⟨before, after, ahead, pending, split, under, heads⟩ := course
    exact ⟨before, after, ahead, pending, split, under.gains gains rfl, heads⟩
  | done =>
    rw [stage] at course
    exact ⟨course.1, course.2.1, course.2.2.still gains⟩
  | failed f =>
    rw [stage] at course
    refine ⟨course.1, ?_⟩
    rcases course.2 with ⟨raised, quiet, made⟩ | ⟨endless, same, within⟩
    · exact .inl ⟨raised, quiet, made.still gains⟩
    · exact .inr ⟨endless, same, within.gains gains⟩
  | cancelled =>
    rw [stage] at course
    exact ⟨course.1, course.2.gains gains⟩

theorem cancel_onCourse (course : OnCourse s₀ link₀ s link) :
    OnCourse s₀ link₀ (s.cancel link).1 (s.cancel link).2 := by
  cases stage : s.stage with
  | starting =>
    unfold OnCourse at course
    unfold cancel
    rw [stage] at course ⊢
    obtain ⟨_, session, gains⟩ := course
    exact ⟨⟨congrArg Session.timeout session, .inr session⟩, [], List.nil_prefix, gains⟩
  | pacing device =>
    unfold OnCourse at course
    unfold cancel
    rw [stage] at course ⊢
    obtain ⟨before, after, split, under⟩ := course
    have within := under.within List.nil_prefix
    exact ⟨setTimeout_restores under.previous, within.gains (link.setTimeout_gains _)⟩
  | probing device probe =>
    unfold OnCourse at course
    unfold cancel
    rw [stage] at course ⊢
    obtain ⟨before, after, ahead, pending, split, under, heads⟩ := course
    have within := under.within heads.pending_part
    exact ⟨setTimeout_restores under.previous, within.gains (link.setTimeout_gains _)⟩
  | _ =>
    unfold cancel
    rw [stage]
    exact course

theorem Run.onCourse (run : Run (make producers timeout delay) link₀ s link) :
    OnCourse (make producers timeout delay) link₀ s link := by
  induction run with
  | start => exact ⟨⟨rfl, rfl, rfl⟩, rfl, .refl link₀⟩
  | step _ ih => exact step_onCourse ih
  | clock now _ ih => exact ih.setNow now
  | cancel _ ih => exact cancel_onCourse ih

end Scanner

end MeterPolling
