import MeterPolling.Proofs.Agent.Bench
import MeterPolling.Proofs.Seat
/-!
On the bench an agent runs on a clock. Its place among the tasks of the loop is its turn, and each
state of the loop is one of a timed run, whatever the feeder and the readers do and in whatever
order the tasks come to run.
-/
namespace MeterPolling.Agent

variable {a : Agent} {line : Line} {delay : Binary64}

theorem Pausing.sleeps {length : Number} {stage : Stage} {result : Agent × Line × Pause}
    (pausing : Pausing a length stage line result) (sleeps : result.2.2 = .sleeps delay) :
    Binary64.zero ≤ delay ∧ result.1.stage = stage := by
  cases pausing with
  | pauses pause found =>
    obtain rfl : pause = .sleeps delay := sleeps
    exact ⟨(Pause.sleeps_nonneg found).2.2, rfl⟩
  | fails endless => cases sleeps

/-- Who sleeps for some time is woken by nothing that others do. -/
theorem Moves.sleeps {result : Agent × Line × Pause} (moves : Moves a line result)
    (sleeps : result.2.2 = .sleeps delay) :
    Binary64.zero ≤ delay ∧ ∀ line', result.1.awake line' = false := by
  cases moves with
  | takes result stage taking =>
    cases taking with
    | other r rest result items other pausing =>
      obtain ⟨nonneg, settling⟩ := pausing.sleeps sleeps
      exact ⟨nonneg, fun line' => by rw [awake, settling]⟩
    | _ => cases sleeps
  | asks r number result stage asking =>
    cases asking with
    | asks next exchange pause within accepted asks call found =>
      obtain rfl : pause = .sleeps delay := sleeps
      refine ⟨?_, fun line' => rfl⟩
      unfold Exchange.pause? at found
      split at found
      · cases found
      · exact (Pause.sleeps_nonneg found).2.2
    | _ => cases sleeps
  | settles r number exchange result stage settling =>
    cases settling with
    | retries next fault result reply warns pausing =>
      obtain ⟨nonneg, retrying⟩ := pausing.sleeps sleeps
      exact ⟨nonneg, fun line' => by rw [awake, retrying]⟩
    | _ => cases sleeps
  | _ => cases sleeps

namespace Bench

variable {setup : Setup} {link : Link} {loop next : Loop Task State} {turn : Turn}

/-- The agent is in a timed run with this turn, and the items put have left the feed. -/
def Reaches (setup : Setup) (link : Link) (s : State) (turn : Turn) : Prop :=
  ∃ puts log, Timed (make setup.settings)
    (.make link 0 setup.readingsBound setup.controlsBound) puts log s.agent s.line turn ∧
    puts ++ items s.feed = items setup.feed

/-- The agent is in a timed run, and its place in the loop is its turn. No other task wakes it from a
sleep. -/
structure Clocked (setup : Setup) (link : Link) (loop : Loop Task State) : Prop where
  once : loop.tasks.Nodup
  ahead : Loop.Ahead (tasks setup) loop
  timed : ∃ turn, Reaches setup link loop.shared turn ∧ Loop.Seated (tasks setup) .agent loop turn ∧
    ∀ deadline, turn = .asleep deadline → ∀ line, loop.shared.agent.awake line = false

theorem putLeading_now (line : Line) (feed : List Feed) :
    (putLeading line feed).1.now = line.now := by
  induction feed generalizing line with
  | nil => rfl
  | cons item feed ih =>
    cases item with
    | put request => exact ih _
    | pause delay => rfl

theorem reader_sleeps {α : Type} {pace : Option Number} {reader : Reader} {channel : Channel α}
    (sleeps : (reader.step pace channel).2.2 = .sleeps delay) : Binary64.zero ≤ delay := by
  unfold Reader.step at sleeps
  have take (channel : Channel α) : (Reader.take channel).2.2 ≠ .sleeps delay := by
    unfold Reader.take
    split <;> simp
  split at sleeps
  · cases sleeps
  · exact Pause.sleeps_or_ends sleeps
  · exact absurd sleeps (take channel)
  · exact absurd sleeps (take channel)

theorem clockwork (setup : Setup) : Loop.Clockwork (tasks setup) := by
  refine ⟨fun task s => ?_, fun now s => rfl⟩
  cases task with
  | feeder =>
    have now := putLeading_now s.line s.feed
    simp only [tasks, step]
    generalize putLeading s.line s.feed = led at now ⊢
    obtain ⟨line, feed⟩ := led
    split <;> (rename_i leading; cases leading; exact now)
  | agent => exact step_now s.agent s.line
  | readingsReader => rfl
  | controlsReader => rfl
  | observer =>
    simp only [tasks, step]
    split <;> rfl

/-! ## The tasks around the agent -/

theorem Reaches.putLeading {s : State} (reaches : Reaches setup link s turn)
    (paused : turn ≠ .running) :
    Reaches setup link
      { s with line := (putLeading s.line s.feed).1, feed := (putLeading s.line s.feed).2 }
      turn := by
  obtain ⟨line, agent, feed, readingsReader, controlsReader, finished⟩ := s
  induction feed generalizing line with
  | nil => exact reaches
  | cons item feed ih =>
    cases item with
    | pause delay => exact reaches
    | put request =>
      obtain ⟨puts, log, timed, fed⟩ := reaches
      have put := timed.put request paused
      exact ih _ ⟨puts ++ [request], log, put, by rw [List.append_assoc]; exact fed⟩

theorem Reaches.channels {s : State} (reaches : Reaches setup link s turn)
    (paused : turn ≠ .running) (start : Binary64.zero ≤ link.now) (readings : Channel Reading)
    (controls : Channel Control) (reader reader' : Reader) :
    Reaches setup link
      { s with
        line := { s.line with readings := readings, controls := controls }
        readingsReader := reader
        controlsReader := reader' } turn := by
  obtain ⟨puts, log, timed, fed⟩ := reaches
  have apart : s.line.Apart { s.line with readings := readings, controls := controls } :=
    ⟨aside_channels s.line readings controls, rfl⟩
  have first : Binary64.zero ≤ (Line.make link 0 setup.readingsBound setup.controlsBound).now :=
    start
  exact ⟨puts, log, timed.aside paused apart (Binary64.le_refl (timed.clock first).2.1), fed⟩

/-- Any other task leaves the agent where it is, and sleeps no shorter than no time. -/
theorem other_reaches {task : Task} {s : State} (other : task ≠ .agent)
    (start : Binary64.zero ≤ link.now) (paused : turn ≠ .running)
    (reaches : Reaches setup link s turn) :
    Reaches setup link (step setup task s).1 turn ∧ (step setup task s).1.agent = s.agent ∧
      ∀ delay, (step setup task s).2 = .sleeps delay → Binary64.zero ≤ delay := by
  cases task with
  | agent => exact absurd rfl other
  | feeder =>
    have fed := reaches.putLeading paused
    unfold step
    generalize putLeading s.line s.feed = led at fed ⊢
    obtain ⟨line, feed⟩ := led
    simp only
    split
    · rename_i length rest leading
      cases leading
      exact ⟨fed, rfl, fun delay sleeps => Pause.sleeps_or_ends sleeps⟩
    · rename_i leading
      cases leading
      exact ⟨fed, rfl, fun delay sleeps => by cases sleeps⟩
  | readingsReader =>
    exact ⟨reaches.channels paused start _ _ _ _, rfl, fun delay sleeps => reader_sleeps sleeps⟩
  | controlsReader =>
    exact ⟨reaches.channels paused start _ _ _ _, rfl, fun delay sleeps => reader_sleeps sleeps⟩
  | observer =>
    unfold step
    simp only
    split
    · exact ⟨reaches, rfl, fun delay sleeps => by cases sleeps⟩
    · exact ⟨reaches, rfl, fun delay sleeps => by cases sleeps⟩

/-! ## The loop -/

/-- Each step of the loop goes on with the run. -/
theorem Clocked.goes_on (unused : link.Unused) (start : Binary64.zero ≤ link.now)
    (clocked : Clocked setup link loop) (step : Loop.Step (tasks setup) loop next) :
    Clocked setup link next := by
  obtain ⟨once, ahead, turn, reaches, seated, deaf⟩ := clocked
  have first : Binary64.zero ≤ (Line.make link 0 setup.readingsBound setup.controlsBound).now :=
    start
  have awakes : (Line.make link 0 setup.readingsBound setup.controlsBound).link.Unused := unused
  have moves : Moves loop.shared.agent loop.shared.line
      (loop.shared.agent.step loop.shared.line) := by
    obtain ⟨puts, log, timed, _⟩ := reaches
    obtain ⟨outputs, observed⟩ := timed.observed
    exact step_moves (observed.serves awakes).2
  have lengths : Loop.Sleeps (tasks setup) loop := by
    intro task delay running sleeps
    by_cases own : task = .agent
    · rw [own] at sleeps
      exact (moves.sleeps sleeps).1
    · have paused := seated.paused_of_other running own
      exact (other_reaches own start paused reaches).2.2 delay sleeps
  obtain ⟨ahead', later⟩ := step.ahead (clockwork setup) lengths ahead
  refine ⟨step.nodup once, ahead', ?_⟩
  cases step with
  | run task running =>
    rw [Loop.runTask_shared]
    by_cases own : task = .agent
    · subst own
      obtain rfl := seated.running.mp running
      obtain ⟨puts, log, timed, fed⟩ := reaches
      refine ⟨_, ⟨puts, _, timed.step, fed⟩,
        .own once running fun delay sleeps => (moves.sleeps sleeps).2 _, fun deadline asleep => ?_⟩
      obtain ⟨delay, sleeps⟩ := Loop.sleeps_of_asleep asleep
      exact (moves.sleeps sleeps).2
    · obtain ⟨reaches', same, _⟩ :=
        other_reaches own start (seated.paused_of_other running own) reaches
      have still (deadline : Binary64) (asleep : turn = .asleep deadline) (line : Line) :
          ((tasks setup).step task loop.shared).1.agent.awake line = false := by
        rw [show ((tasks setup).step task loop.shared).1.agent = loop.shared.agent from same]
        exact deaf deadline asleep line
      exact ⟨turn, reaches', seated.other running own ((clockwork setup).still task _)
        fun deadline asleep => still deadline asleep _, still⟩
  | pick task rest running ready =>
    by_cases own : task = .agent
    · subst own
      obtain ⟨puts, log, timed, fed⟩ := reaches
      have due := seated.ready (ready ▸ List.mem_cons_self)
      exact ⟨.running, ⟨puts, log, timed.resume due, fed⟩, .picked once running ready, nofun⟩
    · exact ⟨turn, reaches, seated.passed running ready own, deaf⟩
  | wait deadline running ready earliest =>
    have idle : Loop.Idle loop := ⟨running, ready⟩
    have paused := seated.paused_of_none running
    obtain ⟨puts, log, timed, fed⟩ := reaches
    have apart : loop.shared.line.Apart (loop.shared.line.setNow deadline) :=
      ⟨aside_setNow loop.shared.line deadline, rfl⟩
    have number : deadline.isNaN = false := later.2.1
    exact ⟨turn, ⟨puts, log, timed.aside paused apart later, fed⟩,
      seated.wait idle ahead (clockwork setup).sets number, deaf⟩

theorem initial_clocked (setup : Setup) (start : Binary64.zero ≤ link.now) {order : List Task}
    (once : order.Nodup) : Clocked setup link (.start (initial setup link) order) := by
  have clock : Binary64.zero ≤ (initial setup link).line.now := by
    have now := putLeading_now (.make link 0 setup.readingsBound setup.controlsBound) setup.feed
    rw [initial, now]
    exact start
  have reaches : Reaches setup link (initial setup link) .ready := by
    have first : Reaches setup link ⟨.make link 0 setup.readingsBound setup.controlsBound,
        .make setup.settings, setup.feed, .starting, .starting, false⟩ .ready :=
      ⟨[], [], .start, rfl⟩
    exact first.putLeading (by simp)
  refine ⟨?_, ⟨clock, nofun⟩, .ready, reaches, .start _ _ _ _, nofun⟩
  rw [Loop.tasks, Loop.start]
  simpa using once

/-- Every state of the bench is one of a timed run. -/
theorem iterate_reaches (setup : Setup) (unused : link.Unused) (start : Binary64.zero ≤ link.now)
    {order : List Task} (once : order.Nodup) (alarm : Option Binary64) (n : Nat) :
    ∃ turn, Reaches setup link
      (Loop.iterate (tasks setup) alarm n (.start (initial setup link) order)).shared turn := by
  have clocked : Clocked setup link
      (Loop.iterate (tasks setup) alarm n (.start (initial setup link) order)) :=
    Loop.iterate_steps
      (fun holds stepped => holds.goes_on unused start (Loop.step_of_step? stepped).2) n
      (initial_clocked setup start once)
  obtain ⟨turn, reaches, _⟩ := clocked.timed
  exact ⟨turn, reaches⟩

end Bench

end MeterPolling.Agent
