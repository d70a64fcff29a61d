import MeterPolling.Polling.Alone
import MeterPolling.Proofs.Agent.Outputs
import MeterPolling.Proofs.Scheduler.Rounds
/-!
What holds of polling in whatever order its tasks come to run: the agent works on what the scheduler
puts, the scheduler is in its rounds, and what the agent puts has been logged or still waits.
-/
namespace MeterPolling

structure Link.Untouched (link : Link) : Prop extends Link.Unused link where
  queued : link.recorded Event.queued? = []
  sizes : link.recorded Event.roundSize? = []
  loggedReadings : link.recorded Event.loggedReading? = []
  loggedControls : link.recorded Event.loggedControl? = []

namespace Polling

/-- What was put is what was logged and what still waits, in this order. -/
structure Carried (line : Line) : Prop where
  readings : line.link.recorded Event.loggedReading? ++ line.readings.items =
    line.link.recorded Event.reading?
  controls : line.link.recorded Event.loggedControl? ++ line.controls.items =
    line.link.recorded Event.control?

/-- The agent works on what the scheduler put. -/
def Fed (settings : Agent.Settings) (line₀ : Line) (a : Agent) (line : Line) : Prop :=
  Agent.Run (.make settings) line₀ ((line.link.recorded Event.queued?).map some) a line

variable {settings : Agent.Settings} {devices : List (Int × Producer)} {line₀ line next : Line}
  {a : Agent} {s : Scheduler} {more : Outputs}

/-! ## The agent -/

theorem Fed.aside (fed : Fed settings line₀ a line) (aside : line.Aside next)
    (queued : next.link.recorded Event.queued? = line.link.recorded Event.queued?) :
    Fed settings line₀ a next := by
  rw [Fed, queued]
  exact Agent.Run.aside fed aside

theorem note_aside (line : Line) (notice : Notice) : line.Aside (line.note notice) :=
  ⟨rfl, rfl, rfl, Link.note_ledger _ _, Link.recorded_none line.link rfl⟩

theorem agent_rounds (a : Agent) (line : Line) :
    (a.step line).2.1.link.recorded Event.queued? = line.link.recorded Event.queued? ∧
      (a.step line).2.1.link.recorded Event.roundSize? = line.link.recorded Event.roundSize? := by
  constructor
  · exact a.step_recorded line (fun _ work => (Event.isWork_apart work).1) (fun _ => rfl)
      fun _ => rfl
  · exact a.step_recorded line (fun _ work => (Event.isWork_apart work).2.1) (fun _ => rfl)
      fun _ => rfl

theorem Fed.step (fed : Fed settings line₀ a line) :
    Fed settings line₀ (a.step line).1 (a.step line).2.1 := by
  rw [Fed, (agent_rounds a line).1]
  exact Agent.Run.step fed

theorem Fed.cancel (fed : Fed settings line₀ a line) :
    Fed settings line₀ (a.cancel line).1 (a.cancel line).2 := by
  rw [Fed, (a.cancel_quiet line).link.queued]
  exact Agent.Run.cancel fed

theorem Fed.scheduled (fed : Fed settings line₀ a line) (effect : Scheduler.Effect line next) :
    Fed settings line₀ a next := by
  cases effect with
  | nothing => exact fed
  | queued count => exact fed.aside (note_aside line _) (Link.recorded_none line.link rfl)
  | overran elapsed interval =>
    exact fed.aside (note_aside line _) (Link.recorded_none line.link rfl)
  | put request room =>
    have found : (Event.queued request).queued? = some request := rfl
    have queued : (line.queue request).link.recorded Event.queued? =
        line.link.recorded Event.queued? ++ [request] := line.link.recorded_some found
    rw [Fed, queued, List.map_append]
    -- for the agent a request is put, and then something is noted
    refine (Agent.Run.put (some request) fed).aside ?_
    exact ⟨rfl, rfl, rfl, line.link.record_ledger_none rfl, Link.recorded_none line.link rfl⟩

/-! ## What is put and logged -/

/-- What is put waits to be logged. -/
theorem Carried.puts (carried : Carried line) (puts : line.Puts next more)
    (readings : next.link.recorded Event.loggedReading? = line.link.recorded Event.loggedReading?)
    (controls : next.link.recorded Event.loggedControl? = line.link.recorded Event.loggedControl?) :
    Carried next := by
  constructor
  · rw [readings, puts.readings, puts.delivered, ← List.append_assoc, carried.readings]
  · rw [controls, puts.controls, puts.reported, ← List.append_assoc, carried.controls]

theorem Carried.step (carried : Carried line) (a : Agent) : Carried (a.step line).2.1 := by
  obtain ⟨more, puts⟩ := a.step_puts line
  refine carried.puts puts ?_ ?_
  · exact a.step_recorded line (fun _ work => (Event.isWork_apart work).2.2.2.2.1) (fun _ => rfl)
      fun _ => rfl
  · exact a.step_recorded line (fun _ work => (Event.isWork_apart work).2.2.2.2.2) (fun _ => rfl)
      fun _ => rfl

theorem Carried.cancel (carried : Carried line) (a : Agent) : Carried (a.cancel line).2 := by
  have quiet := a.cancel_quiet line
  exact carried.puts (a.cancel_puts line) quiet.link.loggedReadings quiet.link.loggedControls

theorem Carried.record (carried : Carried line) {event : Event}
    (apart : event.reading? = none ∧ event.control? = none ∧ event.loggedReading? = none ∧
      event.loggedControl? = none) (requests : Channel (Option Request)) :
    Carried ⟨line.link.record event, requests, line.readings, line.controls⟩ := by
  obtain ⟨reading, control, loggedReading, loggedControl⟩ := apart
  constructor
  · rw [Link.recorded_none line.link reading, Link.recorded_none line.link loggedReading]
    exact carried.readings
  · rw [Link.recorded_none line.link control, Link.recorded_none line.link loggedControl]
    exact carried.controls

theorem Carried.scheduled (carried : Carried line) (effect : Scheduler.Effect line next) :
    Carried next := by
  cases effect with
  | nothing => exact carried
  | queued count => exact carried.record ⟨rfl, rfl, rfl, rfl⟩ line.requests
  | overran elapsed interval => exact carried.record ⟨rfl, rfl, rfl, rfl⟩ line.requests
  | put request room => exact carried.record ⟨rfl, rfl, rfl, rfl⟩ (line.requests.put (some request))

/-! ## All tasks together -/

structure Sound (settings : Agent.Settings) (devices : List (Int × Producer)) (line₀ : Line)
    (p : Polling) : Prop where
  fed : Fed settings line₀ p.agent p.line
  same : p.scheduler.devices = devices
  placed : ∃ k, Scheduler.Placed devices k p.scheduler p.line
  carried : Carried p.line
  /-- Whoever is told to end was told by the supervisor, which then only waits. -/
  cancelled : p.cancelled = true → p.supervisor = .draining ∨ p.supervisor = .done
  /-- No reporter ends before it is told to. -/
  reporters : p.readingsReporterEnded = true ∨ p.controlsReporterEnded = true → p.cancelled = true

variable {p : Polling}

/-- Taking from an output channel and logging what was taken concerns nobody else. -/
theorem Sound.relog (sound : Sound settings devices line₀ p) {readings : Channel Reading}
    {controls : Channel Control} {notice : Notice}
    (apart : (Event.noted notice).roundSize? = none)
    (carried : Carried ({ p.line with readings := readings, controls := controls }.note notice)) :
    Sound settings devices line₀
      { p with line := { p.line with readings := readings, controls := controls }.note notice } := by
  obtain ⟨k, placed⟩ := sound.placed
  refine ⟨sound.fed.aside ?_ ?_, sound.same, ⟨k, placed.congr ?_ ?_⟩, carried, sound.cancelled,
    sound.reporters⟩
  · exact ⟨rfl, rfl, rfl, Link.note_ledger _ _, Link.recorded_none p.line.link rfl⟩
  · exact Link.recorded_none p.line.link rfl
  · exact Link.recorded_none p.line.link rfl
  · exact Link.recorded_none p.line.link apart

theorem Sound.reportReading (sound : Sound settings devices line₀ p) :
    Sound settings devices line₀ p.reportReading.1 := by
  obtain ⟨readings, controls⟩ := sound.carried
  unfold Polling.reportReading Channel.take?
  cases items : p.line.readings.items with
  | nil => exact sound
  | cons reading rest =>
    have found : (Event.noted (.readingTaken reading)).loggedReading? = some reading := rfl
    refine sound.relog rfl ⟨?_, ?_⟩
    · rw [items, List.append_cons] at readings
      exact (congrArg (· ++ rest) (p.line.link.recorded_some found)).trans
        (readings.trans (Link.recorded_none p.line.link rfl).symm)
    · exact (congrArg (· ++ _) (Link.recorded_none p.line.link rfl)).trans
        (controls.trans (Link.recorded_none p.line.link rfl).symm)

theorem Sound.reportControl (sound : Sound settings devices line₀ p) :
    Sound settings devices line₀ p.reportControl.1 := by
  obtain ⟨readings, controls⟩ := sound.carried
  unfold Polling.reportControl Channel.take?
  cases items : p.line.controls.items with
  | nil => exact sound
  | cons control rest =>
    have found : (Event.noted (.controlTaken control p.line.link.counters .zero)).loggedControl? =
      some control := rfl
    refine sound.relog rfl ⟨?_, ?_⟩
    · exact (congrArg (· ++ _) (Link.recorded_none p.line.link rfl)).trans
        (readings.trans (Link.recorded_none p.line.link rfl).symm)
    · rw [items, List.append_cons] at controls
      exact (congrArg (· ++ rest) (p.line.link.recorded_some found)).trans
        (controls.trans (Link.recorded_none p.line.link rfl).symm)

theorem Sound.endTask (sound : Sound settings devices line₀ p) (cancelled : p.cancelled = true)
    (task : Task) : Sound settings devices line₀ (p.endTask task) := by
  cases task with
  | readingsReporter => exact { sound with reporters := fun _ => cancelled }
  | controlsReporter => exact { sound with reporters := fun _ => cancelled }
  | scheduler =>
    obtain ⟨k, placed⟩ := sound.placed
    exact ⟨sound.fed, (Scheduler.cancel_devices _).trans sound.same,
      ⟨k, Scheduler.cancel_placed placed⟩, sound.carried, sound.cancelled, sound.reporters⟩
  | agent =>
    obtain ⟨k, placed⟩ := sound.placed
    have quiet := p.agent.cancel_quiet p.line
    exact ⟨sound.fed.cancel, sound.same, ⟨k, placed.congr quiet.link.queued quiet.link.sizes⟩,
      sound.carried.cancel p.agent, sound.cancelled, sound.reporters⟩

/-- Whatever a task does, polling stays as it should be. -/
theorem Sound.stepTask (sound : Sound settings devices line₀ p) (task : Task) :
    Sound settings devices line₀ (p.stepTask task).1 := by
  unfold Polling.stepTask
  split
  · exact sound
  · split
    · rename_i cancelled
      exact sound.endTask cancelled task
    · cases task with
      | readingsReporter => exact sound.reportReading
      | controlsReporter => exact sound.reportControl
      | scheduler =>
        have effect := p.scheduler.step_effect p.line
        obtain ⟨k, placed⟩ := sound.placed
        refine ⟨sound.fed.scheduled effect, (Scheduler.step_devices _ _).trans sound.same, ?_,
          sound.carried.scheduled effect, sound.cancelled, sound.reporters⟩
        rcases Scheduler.step_placed sound.same placed with stays | ⟨_, _, next⟩
        · exact ⟨k, stays⟩
        · exact ⟨k + 1, next⟩
      | agent =>
        obtain ⟨k, placed⟩ := sound.placed
        obtain ⟨queued, sizes⟩ := agent_rounds p.agent p.line
        exact ⟨sound.fed.step, sound.same, ⟨k, placed.congr queued sizes⟩,
          sound.carried.step p.agent, sound.cancelled, sound.reporters⟩

theorem Sound.stepSupervisor (sound : Sound settings devices line₀ p) :
    Sound settings devices line₀ p.stepSupervisor.1 := by
  obtain ⟨fed, same, placed, carried, cancelled, reporters⟩ := sound
  unfold Polling.stepSupervisor
  cases supervisor : p.supervisor with
  | watching =>
    -- nobody was told to end yet
    have untold : ¬ p.cancelled = true := by
      intro told
      rcases cancelled told with draining | done
      · cases supervisor.symm.trans draining
      · cases supervisor.symm.trans done
    simp only
    split
    · exact ⟨fed, same, placed, carried, fun _ => .inl rfl, fun _ => rfl⟩
    · split
      · exact ⟨fed, same, placed, carried, fun told => absurd told untold, reporters⟩
      · split
        · exact ⟨fed, same, placed, carried, fun _ => .inr rfl, reporters⟩
        · exact ⟨fed, same, placed, carried, cancelled, reporters⟩
  | alerted => exact ⟨fed, same, placed, carried, fun _ => .inl rfl, fun _ => rfl⟩
  | draining =>
    simp only
    split
    · exact ⟨fed, same, placed, carried, fun _ => .inr rfl, reporters⟩
    · exact ⟨fed, same, placed, carried, cancelled, reporters⟩
  | done => exact ⟨fed, same, placed, carried, cancelled, reporters⟩

theorem Sound.step (sound : Sound settings devices line₀ p) (task : Option Task) :
    Sound settings devices line₀ (supervised.step task p).1 := by
  cases task with
  | none => exact sound.stepSupervisor
  | some task => exact sound.stepTask task

theorem Sound.setNow (sound : Sound settings devices line₀ p) (now : Binary64) :
    Sound settings devices line₀ (supervised.setNow now p) := by
  obtain ⟨fed, same, placed, carried, cancelled, reporters⟩ := sound
  exact ⟨fed.aside ⟨rfl, rfl, rfl, rfl, rfl⟩ rfl, same, placed, ⟨carried.readings, carried.controls⟩,
    cancelled, reporters⟩

theorem supervised_still (task : Option Task) (p : Polling) :
    supervised.now (supervised.step task p).1 = supervised.now p := by
  cases task with
  | none =>
    change p.stepSupervisor.1.line.now = p.line.now
    unfold stepSupervisor
    cases p.supervisor with
    | watching =>
      simp only
      split
      · rfl
      · split
        · rfl
        · split <;> rfl
    | alerted => rfl
    | draining =>
      simp only
      split <;> rfl
    | done => rfl
  | some task =>
    change (p.stepTask task).1.line.now = p.line.now
    unfold stepTask
    split
    · rfl
    · split
      · cases task with
        | agent => exact (p.agent.cancel_quiet p.line).link.now
        | _ => rfl
      · cases task with
        | readingsReporter =>
          simp only [Polling.reportReading]
          split <;> rfl
        | controlsReporter =>
          simp only [Polling.reportControl]
          split <;> rfl
        | scheduler => exact (p.scheduler.step_effect p.line).now
        | agent => exact p.agent.step_now p.line

theorem sound_make {link : Link} (untouched : link.Untouched) (settings : Agent.Settings)
    (devices : List (Int × Producer)) (interval : Number) (text : String)
    (requests readings controls : Nat) :
    let line := Line.make link requests readings controls
    Sound settings devices line
      (make line (.make settings) (.make devices interval text)) := by
  intro line
  have unread : line.link.recorded Event.reading? = [] := untouched.toUnused.unread
  have unreported : line.link.recorded Event.control? = [] := untouched.toUnused.unreported
  have unqueued : line.link.recorded Event.queued? = [] := untouched.queued
  constructor
  case fed =>
    rw [Fed]
    change Agent.Run _ _ ((line.link.recorded Event.queued?).map some) _ _
    rw [unqueued]
    exact .start
  case same => rfl
  case placed => exact ⟨0, unqueued, untouched.sizes⟩
  case carried =>
    constructor
    · change line.link.recorded _ ++ [] = line.link.recorded _
      rw [unread, List.append_nil]
      exact untouched.loggedReadings
    · change line.link.recorded _ ++ [] = line.link.recorded _
      rw [unreported, List.append_nil]
      exact untouched.loggedControls
  case cancelled => exact fun told => by cases told
  case reporters => exact fun ended => by rcases ended with ended | ended <;> cases ended

end Polling

end MeterPolling
