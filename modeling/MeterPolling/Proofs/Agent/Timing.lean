import MeterPolling.Proofs.Agent.Progress
/-!
Nothing that an agent does depends on time. Two runs on the same items, with the same number of
attempts and with buses that answer alike, do the same deeds in the same order; one of them may only
be further on than the other. What differs between them may be any pause and any delay, the room in
the channels, how fast these are read, and what else goes on around the agents.
-/
namespace MeterPolling

/-- Two buses give the same answers, each at its own pace. -/
def Bus.Alike (bus bus' : Bus) : Prop :=
  ∀ earlier call, (bus.reply earlier call).answer = (bus'.reply earlier call).answer

/-- One of two sequences goes on from the other. -/
def Comparable (xs ys : List α) : Prop := xs <+: ys ∨ ys <+: xs

theorem Comparable.filterMap {xs ys : List α} (comparable : Comparable xs ys) (f : α → Option β) :
    Comparable (xs.filterMap f) (ys.filterMap f) :=
  comparable.imp (·.filterMap f) (·.filterMap f)

namespace Bus

variable {bus bus' : Bus}

theorem Alike.attempt (alike : bus.Alike bus') (earlier : List Call) (r : Request) (i : Nat) :
    bus.attempt earlier r i = bus'.attempt earlier r i := by
  simp only [Bus.attempt, outcome, alike _ r.call]

theorem Alike.treat (alike : bus.Alike bus') (limit : Nat) (earlier : List Call) (r : Request) :
    bus.treat limit earlier r = bus'.treat limit earlier r := by
  simp only [Bus.treat, alike.attempt]

theorem Alike.course (alike : bus.Alike bus') (limit : Nat) (earlier : List Call)
    (items : List (Option Request)) :
    bus.course limit earlier items = bus'.course limit earlier items := by
  induction items generalizing earlier with
  | nil => rfl
  | cons item items ih =>
    cases item with
    | none => rfl
    | some r => simp only [Bus.course, alike.treat, ih]

end Bus

theorem Case.trace_mono {cases more : List Case} (part : cases <+: more) :
    trace cases <+: trace more := by
  obtain ⟨rest, rfl⟩ := part
  rw [trace_append]
  exact List.prefix_append _ _

namespace Agent

/-- Every pause that the agent may have to make has a length. All binary64 numbers are lengths; an
integer past the largest of them is none. -/
def Timely (bus : Bus) (timeout : Number) (settings : Settings) : Prop :=
  ∀ delay, Pauses bus timeout settings delay → (Pause.ofDelay? delay).isSome

theorem ofDelay_real (x : Binary64) : (Pause.ofDelay? (.real x)).isSome := by
  unfold Pause.ofDelay?
  split <;> rfl

variable {bus : Bus} {timeout : Number} {settings : Settings} {fed taken : List (Option Request)}
  {ledger : Ledger} {stage : Stage} {a : Agent} {line : Line}

theorem Standing.trace (stands : Standing bus timeout settings taken ledger stage) :
    ledger.deeds <+: Case.trace (bus.course settings.attempts [] taken).1 := by
  obtain ⟨closed, current, part, progress⟩ := stands.progress
  rw [progress.deeds, progress.course, Case.trace_append]
  exact (List.prefix_append_right_inj _).mpr progress.seen

/-- An agent that ends by itself has gone through its course. -/
theorem Standing.concluded {outcome : Outcome}
    (stands : Standing bus timeout settings taken ledger (.ended outcome))
    (finished : outcome ≠ .cancelled) (timely : Timely bus timeout settings) :
    ∃ cases, bus.course settings.attempts [] taken = (cases, some outcome) ∧
      ledger = Case.ledger cases := by
  cases outcome with
  | told =>
    obtain ⟨before, cases, rfl, whole, rfl⟩ := stands
    exact ⟨cases, Bus.course_sentinel whole, rfl⟩
  | failed f =>
    rcases stands with ⟨before, cases, c, rfl, whole, treated, verdict, rfl⟩ |
      ⟨rfl, stage, delay, working, paused, endless⟩
    · refine ⟨cases ++ [c], ?_, rfl⟩
      rw [Bus.course_snoc whole, ← treated, Case.ending?, verdict]
    · have length := timely delay (working.pauses paused)
      rw [endless] at length
      cases length
  | cancelled => exact absurd rfl finished

theorem Account.trace {feed : List (Option Request)}
    (account : Account bus timeout settings fed a line) (part : fed <+: feed) :
    line.link.deeds <+: Case.trace (bus.course settings.attempts [] feed).1 := by
  obtain ⟨_, _, taken, rfl, stands⟩ := account
  have taken_part := (List.prefix_append taken line.requests.items).trans part
  exact stands.trace.trans (Case.trace_mono (Bus.course_mono taken_part))

theorem Account.concluded {feed : List (Option Request)} {outcome : Outcome}
    (account : Account bus timeout settings fed a line) (part : fed <+: feed)
    (ended : a.stage = .ended outcome) (finished : outcome ≠ .cancelled)
    (timely : Timely bus timeout settings) :
    ∃ cases, bus.course settings.attempts [] feed = (cases, some outcome) ∧
      line.link.ledger = Case.ledger cases := by
  obtain ⟨_, _, taken, rfl, stands⟩ := account
  rw [ended] at stands
  obtain ⟨cases, whole, ledger⟩ := stands.concluded finished timely
  obtain ⟨rest, rfl⟩ := (List.prefix_append taken line.requests.items).trans part
  refine ⟨cases, ?_, ledger⟩
  rw [Bus.course_ended (congrArg Prod.snd whole), whole]

/-- Two runs on beginnings of one feed differ only in how far they are. When both have ended by
themselves they have ended alike, and everything they did and counted is the same. -/
theorem Run.timing_is_immaterial {settings' : Settings} {line₀ line₀' line' : Line} {a' : Agent}
    {puts puts' feed : List (Option Request)} (attempts : settings.attempts = settings'.attempts)
    (alike : line₀.link.bus.Alike line₀'.link.bus)
    (unused : line₀.link.Unused) (unused' : line₀'.link.Unused)
    (run : Run (make settings) line₀ puts a line) (run' : Run (make settings') line₀' puts' a' line')
    (fed : line₀.requests.items ++ puts <+: feed) (fed' : line₀'.requests.items ++ puts' <+: feed) :
    Comparable (line.link.recorded Event.call?) (line'.link.recorded Event.call?) ∧
    Comparable ((line.link.recorded Event.reading?).map Reading.result)
      ((line'.link.recorded Event.reading?).map Reading.result) ∧
    Comparable (line.link.recorded Event.control?) (line'.link.recorded Event.control?) ∧
    ∀ outcome outcome', a.stage = .ended outcome → a'.stage = .ended outcome' →
      outcome ≠ .cancelled → outcome' ≠ .cancelled →
      Timely line₀.link.bus line₀.link.timeout settings →
      Timely line₀'.link.bus line₀'.link.timeout settings' →
      outcome = outcome' ∧ line.link.deeds = line'.link.deeds ∧
        line.link.counters = line'.link.counters := by
  have account := run.account unused
  have account' := run'.account unused'
  have same : line₀.link.bus.course settings.attempts [] feed =
      line₀'.link.bus.course settings'.attempts [] feed := by
    rw [attempts, alike.course]
  -- both runs are at some place of the same course
  have deeds : Comparable line.link.deeds line'.link.deeds := by
    have part := account.trace fed
    have part' := account'.trace fed'
    rw [← same] at part'
    exact List.prefix_or_prefix_of_prefix part part'
  refine ⟨?_, ?_, ?_, ?_⟩
  · rw [← Link.deeds_calls, ← Link.deeds_calls]
    exact deeds.filterMap _
  · rw [← Link.deeds_results, ← Link.deeds_results]
    exact deeds.filterMap _
  · rw [← Link.deeds_controls, ← Link.deeds_controls]
    exact deeds.filterMap _
  · intro outcome outcome' ended ended' finished finished' timely timely'
    obtain ⟨cases, whole, ledger⟩ := account.concluded fed ended finished timely
    obtain ⟨cases', whole', ledger'⟩ := account'.concluded fed' ended' finished' timely'
    obtain ⟨rfl, outcomes⟩ := Prod.mk.inj (whole.symm.trans (same.trans whole'))
    have entries := ledger.trans ledger'.symm
    exact ⟨Option.some.inj outcomes, congrArg Ledger.deeds entries,
      congrArg Ledger.counters entries⟩

theorem hesitant_alike (delay delay' : Option Number) :
    (hesitant delay).Alike (hesitant delay') := by
  intro earlier call
  unfold hesitant
  simp only
  split <;> rfl

theorem hesitant_timely {delay : Number} (timeout : Number) (length : (Pause.ofDelay? delay).isSome)
    (replies : (Pause.ofDelay? timeout).isSome)
    (settles : (Pause.ofDelay? settings.settleDelay).isSome)
    (retries : (Pause.ofDelay? settings.retryDelay).isSome) :
    Timely (hesitant (some delay)) timeout settings := by
  rintro pause (rfl | rfl | ⟨earlier, call, waits⟩)
  · exact settles
  · exact retries
  · unfold Bus.exchange hesitant at waits
    simp only at waits
    split at waits
    · rename_i silence
      cases waits
      exact replies
    · rename_i delay' answer reply
      split at reply
      · cases reply
      · cases reply
        cases waits
        exact length

def patient : Settings := ⟨5, 0, 2⟩

/-- A quick agent and a patient one have done the same when both have stopped as they were told. -/
theorem Run.hesitant_meters_agree :
    let line := hesitantLine (some 0) 0
    let line' := hesitantLine (some 1) 1
    let last := (make .default).advance 10 line
    let last' := (make patient).advance 10 line'
    line.link.bus.Alike line'.link.bus ∧ line.link.Unused ∧ line'.link.Unused ∧
      Run (make .default) line [] last.1 last.2 ∧ Run (make patient) line' [] last'.1 last'.2 ∧
      Timely line.link.bus line.link.timeout .default ∧
      Timely line'.link.bus line'.link.timeout patient ∧
      last.1.stage = .ended .told ∧ last'.1.stage = .ended .told ∧
      last.2.link.deeds = last'.2.link.deeds ∧ last.2.link.counters = last'.2.link.counters := by
  intro line line' last last'
  have alike : line.link.bus.Alike line'.link.bus := hesitant_alike _ _
  have unused := hesitantLine_unused (some 0) 0
  have unused' := hesitantLine_unused (some 1) 1
  have run : Run (make .default) line [] last.1 last.2 := Run.start.advance 10
  have run' : Run (make patient) line' [] last'.1 last'.2 := Run.start.advance 10
  have timely : Timely line.link.bus line.link.timeout .default :=
    hesitant_timely _ (by decide +kernel) (ofDelay_real _) (ofDelay_real _) (ofDelay_real _)
  have timely' : Timely line'.link.bus line'.link.timeout patient :=
    hesitant_timely _ (by decide +kernel) (ofDelay_real _) (by decide +kernel) (by decide +kernel)
  have ended : last.1.stage = .ended .told := by decide +kernel
  have ended' : last'.1.stage = .ended .told := by decide +kernel
  have attempts : Settings.default.attempts = patient.attempts := rfl
  obtain ⟨-, -, -, agree⟩ := Run.timing_is_immaterial attempts alike unused unused' run run'
    (List.prefix_refl _) (List.prefix_refl _)
  obtain ⟨-, deeds, counters⟩ := agree _ _ ended ended' (by simp) (by simp) timely timely'
  exact ⟨alike, unused, unused', run, run', timely, timely', ended, ended', deeds, counters⟩

end Agent

end MeterPolling
