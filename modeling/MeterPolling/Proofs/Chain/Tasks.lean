import MeterPolling.Proofs.Agent.Moves
import MeterPolling.Proofs.Agent.Timing
import MeterPolling.Proofs.Deadline
import MeterPolling.Proofs.Polling.Ending
import MeterPolling.Proofs.Polling.Sound
import MeterPolling.Reader
/-!
The chain of tasks from the scheduler over the agent to the readers of its two outputs, with nobody
above them. Every channel may have a bound. A reader takes at once, or pauses for as long as it likes
before each item; ready tasks may come to run in any order.
-/
namespace MeterPolling

theorem Pause.ofDelay_timed {delay : Number} {pause : Pause} (found : ofDelay? delay = some pause) :
    pause = .yields ∨ ∃ length, pause = .sleeps length := by
  unfold ofDelay? at found
  split at found
  · obtain ⟨length, _, rfl⟩ := Option.map_eq_some_iff.mp found
    exact .inr ⟨length, rfl⟩
  · cases found
    exact .inl rfl

theorem Pause.ofDelay_waits_not (delay : Number) : ofDelay? delay ≠ some .waits := by
  intro found
  rcases ofDelay_timed found with same | ⟨length, same⟩ <;> cases same

theorem Exchange.pause_waits_not (x : Exchange) : x.pause? ≠ some .waits := by
  unfold pause?
  split
  · simp
  · exact Pause.ofDelay_waits_not _

/-- A reader goes on: it takes at once, or it pauses this long first. -/
def Reader.draw (pace : Option Binary64) (r : Reader) (channel : Channel α) :
    Reader × Channel α × Pause :=
  match pace with
  | none => take channel
  | some delay => r.step (some (.real delay)) channel

namespace Reader

/-- A reader that has gone on does not end, and if it waits then for an item. -/
def Draws (result : Reader × Channel α × Pause) : Prop :=
  result.2.2 ≠ .ends ∧ (result.2.2 = .waits → result.1 = .waiting)

theorem take_draws (channel : Channel α) : Draws (take channel) := by
  unfold take
  split
  · exact ⟨by simp, fun _ => rfl⟩
  · exact ⟨by simp, fun waits => by cases waits⟩

theorem draw_draws (pace : Option Binary64) (r : Reader) (channel : Channel α) :
    Draws (r.draw pace channel) := by
  unfold draw
  split
  · exact take_draws channel
  · rename_i delay
    cases r with
    | starting =>
      obtain ⟨pause, found⟩ := Option.isSome_iff_exists.mp (Agent.ofDelay_real delay)
      simp only [step, found, Option.getD_some]
      rcases Pause.ofDelay_timed found with rfl | ⟨length, rfl⟩
      · exact ⟨by simp, fun waits => by cases waits⟩
      · exact ⟨by simp, fun waits => by cases waits⟩
    | pausing => exact take_draws channel
    | waiting => exact take_draws channel

end Reader

namespace Agent

def Stage.queues : Stage → Bool
  | .idle | .delivering _ | .reporting _ => true
  | _ => false

variable {a : Agent} {line : Line} {delay : Number} {stage : Stage} {result : Agent × Line × Pause}

theorem Pausing.waits_not (pausing : Pausing a delay stage line result) : result.2.2 ≠ .waits := by
  cases pausing with
  | pauses pause found =>
    rintro rfl
    exact Pause.ofDelay_waits_not delay found
  | fails endless => exact fun waits => by cases waits

/-- An agent that waits is where it was, at one of these stages. -/
theorem Moves.waits (moves : Moves a line result) (waits : result.2.2 = .waits) :
    result.1 = a ∧ a.stage.queues = true := by
  cases moves with
  | takes result stage taking =>
    cases taking with
    | waits empty => exact ⟨rfl, by rw [stage]; rfl⟩
    | other r rest result items other pausing => exact absurd waits pausing.waits_not
    | _ => cases waits
  | asks r number result stage asking =>
    cases asking with
    | asks next exchange pause within accepted asks call found =>
      obtain rfl : pause = .waits := waits
      exact absurd found exchange.pause_waits_not
    | _ => cases waits
  | settles r number exchange result stage settling =>
    cases settling with
    | retries next fault result reply warns pausing => exact absurd waits pausing.waits_not
    | _ => cases waits
  | holds reading stage full => exact ⟨rfl, by rw [stage]; rfl⟩
  | withholds control stage full => exact ⟨rfl, by rw [stage]; rfl⟩
  | _ => cases waits

end Agent

namespace Scheduler

def Stage.queues : Stage → Bool
  | .queueing (_ :: _) _ _ | .joining _ => true
  | _ => false

theorem rest_timed (s : Scheduler) (line : Line) (started : Binary64) :
    (s.rest line started).2.2 ≠ .waits := by
  unfold rest
  simp only
  split
  · simp
  · simp only
    split <;> simp

theorem step_waits (s : Scheduler) (line : Line) (waits : (s.step line).2.2 = .waits) :
    (s.step line).1 = s ∧ s.stage.queues = true := by
  unfold step at waits ⊢
  split at waits
  case h_3 request rest count started stage =>
    split at waits
    · rename_i full
      rw [if_pos full]
      exact ⟨rfl, by rw [stage]; rfl⟩
    · cases waits
  case h_4 started stage =>
    split at waits
    · exact absurd waits (s.rest_timed line started)
    · rename_i pending
      rw [if_neg pending]
      exact ⟨rfl, by rw [stage]; rfl⟩
  all_goals cases waits

theorem step_interval (s : Scheduler) (line : Line) : (s.step line).1.interval = s.interval := by
  unfold step rest
  split
  case h_3 => split <;> rfl
  case h_4 =>
    split
    · simp only
      split <;> rfl
    · rfl
  all_goals rfl

/-- A scheduler only ends by itself over an interval past the largest number. -/
theorem step_ended {s : Scheduler} {line : Line} (ended : (s.step line).1.hasEnded = true) :
    s.hasEnded = true ∨ s.interval.toBinary64? = none := by
  unfold step rest at ended
  split at ended
  case h_3 stage =>
    split at ended
    · exact .inl ended
    · cases ended
  case h_4 stage =>
    split at ended
    · simp only at ended
      split at ended
      · rename_i endless
        exact .inr endless
      · cases ended
    · exact .inl ended
  case h_6 stage => exact .inl ended
  case h_7 stage => exact .inl ended
  all_goals cases ended

end Scheduler

structure Chain where
  line : Line
  scheduler : Scheduler
  agent : Agent
  readingsReader : Reader
  controlsReader : Reader

namespace Chain

inductive Task where
  | scheduler
  | agent
  | readingsReader
  | controlsReader
deriving DecidableEq

def Task.all : List Task := [.scheduler, .agent, .readingsReader, .controlsReader]

def step (pace : Option Binary64) (task : Task) (c : Chain) : Chain × Pause :=
  match task with
  | .scheduler =>
    let (scheduler, line, pause) := c.scheduler.step c.line
    ({ c with scheduler := scheduler, line := line }, pause)
  | .agent =>
    let (agent, line, pause) := c.agent.step c.line
    ({ c with agent := agent, line := line }, pause)
  | .readingsReader =>
    let (reader, channel, pause) := c.readingsReader.draw pace c.line.readings
    ({ c with readingsReader := reader, line := { c.line with readings := channel } }, pause)
  | .controlsReader =>
    let (reader, channel, pause) := c.controlsReader.draw pace c.line.controls
    ({ c with controlsReader := reader, line := { c.line with controls := channel } }, pause)

def awake (task : Task) (c : Chain) : Bool :=
  match task with
  | .scheduler => c.scheduler.awake c.line
  | .agent => c.agent.awake c.line
  | .readingsReader => c.readingsReader.awake c.line.readings
  | .controlsReader => c.controlsReader.awake c.line.controls

def tasks (pace : Option Binary64) : Tasks Task Chain where
  step := step pace
  awake := awake
  now c := c.line.now
  setNow now c := { c with line := c.line.setNow now }
  finished _ := false

structure Setup where
  settings : Agent.Settings
  devices : List (Int × Producer)
  interval : Number
  /-- The interval as messages show it. -/
  intervalText : String
  link : Link
  /-- The bounds of the channels for requests, for readings and for controls; zero stands for no
  bound. -/
  requestsBound : Nat
  readingsBound : Nat
  controlsBound : Nat

def Setup.line (setup : Setup) : Line :=
  .make setup.link setup.requestsBound setup.readingsBound setup.controlsBound

def initial (setup : Setup) : Chain where
  line := setup.line
  scheduler := .make setup.devices setup.interval setup.intervalText
  agent := .make setup.settings
  readingsReader := .starting
  controlsReader := .starting

/-- A state that is reached when the tasks are started in some order. Whoever reads next has some
pace, and the tasks that are ready may change places. -/
inductive Reached (setup : Setup) : Loop Task Chain → Prop where
  | start (order : List Task) : order.Perm Task.all → Reached setup (.start (initial setup) order)
  | step (pace : Option Binary64) : Reached setup loop → Loop.Step (tasks pace) loop next →
      Reached setup next
  | reorder (ready : List Task) : Reached setup loop → ready.Perm loop.ready →
      Reached setup { loop with ready := ready }

variable {setup : Setup} {c : Chain} {loop next : Loop Task Chain} {pace : Option Binary64}

/-! ## What holds of the tasks at every moment -/

structure Sound (setup : Setup) (c : Chain) : Prop where
  fed : Polling.Fed setup.settings setup.line c.agent c.line
  same : c.scheduler.devices = setup.devices
  placed : ∃ k, Scheduler.Placed setup.devices k c.scheduler c.line
  interval : c.scheduler.interval = setup.interval
  scheduler : c.scheduler.hasEnded = true → setup.interval.toBinary64? = none
  agent : c.agent.stage ≠ .ended .cancelled

theorem sound_initial (untouched : setup.link.Untouched) : Sound setup (initial setup) where
  fed := by
    have unqueued : setup.link.recorded Event.queued? = [] := untouched.queued
    change Agent.Run _ _ ((setup.link.recorded Event.queued?).map some) _ _
    rw [unqueued]
    exact .start
  same := rfl
  placed := ⟨0, untouched.queued, untouched.sizes⟩
  interval := rfl
  scheduler ended := by cases ended
  agent cancelled := by cases cancelled

theorem Sound.serves (untouched : setup.link.Untouched) (sound : Sound setup c) :
    c.line.link.Serves setup.link.bus setup.link.timeout :=
  (sound.fed.account untouched.toUnused).serves

/-- Neither the time nor what is left in the outputs concerns the scheduler or the agent. -/
theorem Sound.aside (sound : Sound setup c) (now : Binary64) (readings : Channel Reading)
    (controls : Channel Control) (readingsReader controlsReader : Reader) :
    Sound setup
      ⟨⟨{ c.line.link with now := now }, c.line.requests, readings, controls⟩, c.scheduler, c.agent,
        readingsReader, controlsReader⟩ := by
  obtain ⟨k, placed⟩ := sound.placed
  exact ⟨sound.fed.aside ⟨rfl, rfl, rfl, rfl, rfl⟩ rfl, sound.same, ⟨k, placed.congr rfl rfl⟩,
    sound.interval, sound.scheduler, sound.agent⟩

theorem Sound.step (untouched : setup.link.Untouched) (sound : Sound setup c)
    (pace : Option Binary64) (task : Task) : Sound setup (c.step pace task).1 := by
  obtain ⟨k, placed⟩ := sound.placed
  cases task with
  | scheduler =>
    have effect := c.scheduler.step_effect c.line
    refine ⟨sound.fed.scheduled effect, (c.scheduler.step_devices _).trans sound.same, ?_,
      (c.scheduler.step_interval _).trans sound.interval, fun ended => ?_, sound.agent⟩
    · rcases Scheduler.step_placed sound.same placed with stays | ⟨_, _, next⟩
      · exact ⟨k, stays⟩
      · exact ⟨k + 1, next⟩
    · rcases Scheduler.step_ended ended with before | endless
      · exact sound.scheduler before
      · rwa [sound.interval] at endless
  | agent =>
    obtain ⟨queued, sizes⟩ := Polling.agent_rounds c.agent c.line
    have moves := Agent.step_moves (a := c.agent) (sound.serves untouched)
    exact ⟨sound.fed.step, sound.same, ⟨k, placed.congr queued sizes⟩, sound.interval,
      sound.scheduler, moves.cancelled_not sound.agent⟩
  | readingsReader => exact sound.aside c.line.link.now _ c.line.controls _ c.controlsReader
  | controlsReader => exact sound.aside c.line.link.now c.line.readings _ c.readingsReader _

/-! ## Where the tasks are -/

def Queues (task : Task) (c : Chain) : Prop :=
  match task with
  | .scheduler => c.scheduler.stage.queues = true
  | .agent => c.agent.stage.queues = true
  | .readingsReader => c.readingsReader = .waiting
  | .controlsReader => c.controlsReader = .waiting

/-- What tells that a task has ended. No reader ever does. -/
def Gone (task : Task) (c : Chain) : Prop :=
  match task with
  | .scheduler => c.scheduler.hasEnded = true
  | .agent => c.agent.outcome?.isSome = true
  | .readingsReader | .controlsReader => False

theorem step_waits (serves : c.line.link.Serves bus timeout) {task : Task}
    (waits : (c.step pace task).2 = .waits) : Queues task (c.step pace task).1 := by
  cases task with
  | scheduler =>
    obtain ⟨same, queues⟩ := c.scheduler.step_waits c.line waits
    change (c.scheduler.step c.line).1.stage.queues = true
    rw [same]
    exact queues
  | agent =>
    obtain ⟨same, queues⟩ := (Agent.step_moves (a := c.agent) serves).waits waits
    change (c.agent.step c.line).1.stage.queues = true
    rw [same]
    exact queues
  | readingsReader => exact (c.readingsReader.draw_draws pace c.line.readings).2 waits
  | controlsReader => exact (c.controlsReader.draw_draws pace c.line.controls).2 waits

theorem step_others (pace : Option Binary64) (task other : Task) (c : Chain)
    (different : other ≠ task) (queues : Queues other c) : Queues other (c.step pace task).1 := by
  cases task <;> cases other <;> first | exact absurd rfl different | exact queues

theorem step_ends (pace : Option Binary64) (task : Task) (c : Chain)
    (ends : (c.step pace task).2 = .ends) : Gone task (c.step pace task).1 := by
  cases task with
  | scheduler => exact c.scheduler.step_proper c.line ends
  | agent => exact c.agent.step_proper c.line ends
  | readingsReader => exact (c.readingsReader.draw_draws pace c.line.readings).1 ends
  | controlsReader => exact (c.controlsReader.draw_draws pace c.line.controls).1 ends

theorem step_stays (pace : Option Binary64) (task other : Task) (c : Chain)
    (gone : Gone other c) : Gone other (c.step pace task).1 := by
  cases other with
  | readingsReader => exact gone
  | controlsReader => exact gone
  | scheduler =>
    cases task with
    | scheduler =>
      change (c.scheduler.step c.line).1.hasEnded = true
      have ended : c.scheduler.hasEnded = true := gone
      unfold Scheduler.hasEnded at ended
      unfold Scheduler.step
      split at ended
      · rename_i failed
        simp [Scheduler.hasEnded, failed]
      · rename_i cancelled
        simp [Scheduler.hasEnded, cancelled]
      · cases ended
    | _ => exact gone
  | agent =>
    cases task with
    | agent =>
      change (c.agent.step c.line).1.outcome?.isSome = true
      have ended : c.agent.outcome?.isSome = true := gone
      unfold Agent.outcome? at ended
      unfold Agent.step
      split at ended
      · rename_i stage
        simp [Agent.outcome?, stage]
      · cases ended
    | _ => exact gone

structure Ordered (setup : Setup) (loop : Loop Task Chain) : Prop where
  sound : Sound setup loop.shared
  once : loop.tasks.Nodup
  settled : ∀ p ∈ loop.paused, awake p.task loop.shared = false
  present : ∀ task, loop.Present task ∨ Gone task loop.shared
  parked : ∀ p ∈ loop.paused, p.deadline = none → Queues p.task loop.shared

theorem ordered_start (untouched : setup.link.Untouched) {order : List Task}
    (all : order.Perm Task.all) : Ordered setup (.start (initial setup) order) where
  sound := sound_initial untouched
  once := by
    have once : Task.all.Nodup := by decide
    simpa [Loop.tasks, Loop.start] using all.nodup_iff.mpr once
  settled _ member := by cases member
  present task := by
    have listed : task ∈ Task.all := by cases task <;> decide
    exact .inl (.inr (.inl (all.mem_iff.mpr listed)))
  parked _ member := by cases member

theorem Ordered.step (untouched : setup.link.Untouched) (ordered : Ordered setup loop)
    (step : Loop.Step (tasks pace) loop next) : Ordered setup next := by
  obtain ⟨sound, once, settled, present, parked⟩ := ordered
  have timeless : ∀ task now c,
      (tasks pace).awake task ((tasks pace).setNow now c) = (tasks pace).awake task c := by
    intro task now c
    cases task <;> rfl
  constructor
  case sound =>
    exact step.shared (fun task _ sound => sound.step untouched pace task)
      (fun now c sound => sound.aside now c.line.readings c.line.controls _ _) sound
  case once => exact step.nodup once
  case settled => exact step.settled timeless settled
  case present =>
    have clock : ∀ now task c, Gone task c → Gone task ((tasks pace).setNow now c) := by
      intro now task c gone
      cases task <;> exact gone
    exact fun other => step.present (step_ends pace) (step_stays pace) clock (present other)
  case parked =>
    refine step.parked (W := Queues) (fun _ _ => step_waits (sound.serves untouched))
      (step_others pace) ?_ once parked
    intro now task c queues
    cases task <;> exact queues

theorem Reached.ordered (untouched : setup.link.Untouched) (reached : Reached setup loop) :
    Ordered setup loop := by
  induction reached with
  | start order all => exact ordered_start untouched all
  | step pace _ step ih => exact ih.step untouched step
  | @reorder loop ready _ same ih =>
    obtain ⟨sound, once, settled, present, parked⟩ := ih
    refine ⟨sound, ?_, settled, fun task => ?_, parked⟩
    · exact ((same.append_right _).append_left _).nodup_iff.mpr once
    · exact (present task).imp_left fun here =>
        here.imp_right fun elsewhere => elsewhere.imp_left same.mem_iff.mpr

end Chain

end MeterPolling
