import MeterPolling.Proofs.Agent.Balance
import MeterPolling.Proofs.Chain.Tasks
import MeterPolling.Proofs.Decoding
import MeterPolling.Proofs.Scheduler.Run
/-!
The chain never comes to a standstill. Who waits for whom is read off the channels: the scheduler
waits for room or for all to be acknowledged, the agent for a request or for room in an output, a
reader for an item. With both readers out of items there is room in the outputs, so that a waiting
agent has nothing left to do; and then all was acknowledged and there is room for requests.
-/
namespace MeterPolling

theorem Scheduler.Placed.requests {devices : List (Int × Producer)} {k : Nat} {s : Scheduler}
    {line : Line} (placed : Placed devices k s line) :
    ∀ r ∈ line.link.recorded Event.queued?, r ∈ round devices := by
  obtain ⟨done, part, queued⟩ := placed.part
  intro r member
  rw [queued, List.mem_append] at member
  rcases member with whole | started
  · obtain ⟨round, repeated, member⟩ := List.mem_flatten.mp whole
    exact List.eq_of_mem_replicate repeated ▸ member
  · exact part.subset started

namespace Chain

variable {setup : Setup} {c : Chain} {loop : Loop Task Chain}

/-- What keeps a task that waits for a channel. -/
def Blocked (task : Task) (c : Chain) : Prop :=
  match task with
  | .scheduler =>
    match c.scheduler.stage with
    | .queueing (_ :: _) _ _ => c.line.requests.isFull = true
    | .joining _ => c.line.requests.unacknowledged ≠ 0
    | _ => False
  | .agent =>
    match c.agent.stage with
    | .idle => c.line.requests.items = []
    | .delivering _ => c.line.readings.isFull = true
    | .reporting _ => c.line.controls.isFull = true
    | _ => False
  | .readingsReader => c.readingsReader = .waiting ∧ c.line.readings.items = []
  | .controlsReader => c.controlsReader = .waiting ∧ c.line.controls.items = []

theorem blocked_iff (task : Task) (c : Chain) :
    Blocked task c ↔ Queues task c ∧ awake task c = false := by
  cases task with
  | scheduler =>
    simp only [Blocked, Queues, awake, Scheduler.awake]
    cases stage : c.scheduler.stage with
    | queueing rest count started => cases rest <;> simp [Scheduler.Stage.queues]
    | _ => simp [Scheduler.Stage.queues]
  | agent =>
    simp only [Blocked, Queues, awake, Agent.awake]
    cases stage : c.agent.stage <;> simp [Agent.Stage.queues]
  | readingsReader => simp +contextual [Blocked, Queues, awake, Reader.awake]
  | controlsReader => simp +contextual [Blocked, Queues, awake, Reader.awake]

/-- An agent without a request has had them all acknowledged; and an agent with one goes on when its
outputs have room. -/
theorem exists_free (balanced : c.agent.Balanced c.line) : ∃ task, ¬ Blocked task c := by
  by_contra none_free
  have blocked : ∀ task, Blocked task c := by simpa using none_free
  have readings : c.line.readings.isFull = false :=
    Channel.isFull_empty (blocked .readingsReader).2
  have controls : c.line.controls.isFull = false :=
    Channel.isFull_empty (blocked .controlsReader).2
  have idle : c.line.requests.items = [] ∧ c.agent.stage.inHand = 0 := by
    have waits := blocked .agent
    unfold Blocked at waits
    cases stage : c.agent.stage with
    | idle =>
      simp only [stage] at waits
      exact ⟨waits, rfl⟩
    | delivering reading => simp [stage, readings] at waits
    | reporting control => simp [stage, controls] at waits
    | _ => simp [stage] at waits
  have room := Channel.isFull_empty idle.1
  have acknowledged := balanced.settled.mpr idle
  have waits := blocked .scheduler
  simp only [Blocked] at waits
  split at waits
  · rw [room] at waits
    cases waits
  · exact waits acknowledged
  · exact waits

theorem Sound.balanced (sound : Sound setup c) : c.agent.Balanced c.line :=
  Agent.Run.balanced rfl sound.fed

/-- On a bus where every call ends, and none fatally, the agent goes on. -/
theorem Sound.unended (untouched : setup.link.Untouched)
    (timely : Agent.Timely setup.link.bus setup.link.timeout setup.settings)
    (spares : setup.link.bus.Spares setup.devices) (sound : Sound setup c) :
    ∀ outcome, c.agent.stage ≠ .ended outcome := by
  intro outcome ended
  obtain ⟨k, placed⟩ := sound.placed
  obtain ⟨_, _, taken, split, stands⟩ := sound.fed.account untouched.toUnused
  -- only requests of the rounds were put
  have put : ∀ item ∈ taken, ∃ r ∈ Scheduler.round setup.devices, item = some r := by
    intro item member
    have fed : item ∈ (c.line.link.recorded Event.queued?).map some := by
      change (c.line.link.recorded Event.queued?).map some = _ at split
      rw [split]
      exact List.mem_append_left _ member
    obtain ⟨r, queued, rfl⟩ := List.mem_map.mp fed
    exact ⟨r, placed.requests r queued, rfl⟩
  rw [ended] at stands
  cases outcome with
  | told =>
    obtain ⟨before, _, rfl, _⟩ := stands
    obtain ⟨r, _, absent⟩ := put none (by simp)
    cases absent
  | failed f =>
    rcases stands with ⟨before, cases, c, rfl, _, treated, failed, _⟩ |
      ⟨_, stage, delay, working, paused, endless⟩
    · obtain ⟨r, member, same⟩ := put (some c.request) (by simp)
      obtain rfl := Option.some.inj same
      rw [treated] at failed
      exact spares.treat member _ _ f failed
    · have length := timely delay (working.pauses paused)
      rw [endless] at length
      cases length
  | cancelled => exact sound.agent ended

/-- A task is about to run, or asleep until a time that comes. -/
def GoesOn (task : Task) (loop : Loop Task Chain) : Prop :=
  loop.running = some task ∨ task ∈ loop.ready ∨
    ∃ p ∈ loop.paused, p.task = task ∧ p.deadline.isSome = true

/-- What a state without a deadlock looks like. Only a scheduler whose interval is past the largest
number ends, and then by failing. -/
structure Live (setup : Setup) (loop : Loop Task Chain) : Prop where
  /-- Whoever is paused without a deadline waits for a channel. -/
  waits : ∀ p ∈ loop.paused, p.deadline = none → Blocked p.task loop.shared
  active : ∃ task, ¬ Blocked task loop.shared ∧
    (GoesOn task loop ∨
      task = .scheduler ∧ loop.shared.scheduler.hasEnded = true ∧
        setup.interval.toBinary64? = none)

theorem Ordered.blocked (ordered : Ordered setup loop) :
    ∀ p ∈ loop.paused, p.deadline = none → Blocked p.task loop.shared := fun p member untimed =>
  (blocked_iff _ _).mpr ⟨ordered.parked p member untimed, ordered.settled p member⟩

theorem Ordered.goesOn (ordered : Ordered setup loop) {task : Task}
    (free : ¬ Blocked task loop.shared) : GoesOn task loop ∨ Gone task loop.shared := by
  refine (ordered.present task).imp_left fun present => ?_
  rcases present with running | ready | ⟨p, member, rfl⟩
  · exact .inl running
  · exact .inr (.inl ready)
  · refine .inr (.inr ⟨p, member, rfl, ?_⟩)
    cases deadline : p.deadline with
    | none => exact absurd (ordered.blocked p member deadline) free
    | some d => rfl

/-- Whatever the bounds of the channels, the paces of the readers and the order in which tasks come
to run: in no state are all tasks blocked on channels, and one that is not will run. -/
theorem Reached.never_deadlocks (untouched : setup.link.Untouched)
    (timely : Agent.Timely setup.link.bus setup.link.timeout setup.settings)
    (spares : setup.link.bus.Spares setup.devices) (reached : Reached setup loop) :
    Live setup loop := by
  have ordered := reached.ordered untouched
  obtain ⟨task, free⟩ := exists_free ordered.sound.balanced
  refine ⟨ordered.blocked, task, free, (ordered.goesOn free).imp_right fun gone => ?_⟩
  cases task with
  | scheduler => exact ⟨rfl, gone, ordered.sound.scheduler gone⟩
  | agent =>
    have unended := ordered.sound.unended untouched timely spares
    have ended : loop.shared.agent.outcome?.isSome = true := gone
    unfold Agent.outcome? at ended
    split at ended
    · rename_i outcome stage
      exact absurd stage (unended outcome)
    · cases ended
  | readingsReader => exact gone.elim
  | controlsReader => exact gone.elim

theorem Reached.iterate (reached : Reached setup loop) (pace : Option Binary64) (n : Nat) :
    Reached setup (Loop.iterate (tasks pace) none n loop) :=
  Loop.iterate_steps (P := Reached setup)
    (fun reached stepped => reached.step pace (Loop.step_of_step? stepped).2) n reached

/-- The meters of the pair ask for what the hesitant meter gives. -/
theorem hesitant_spares (delay : Option Number) : (Agent.hesitant delay).Spares Scheduler.pair := by
  intro r member earlier
  have asks : ∀ r ∈ Scheduler.round Scheduler.pair, r.refusal? = none ∧ r.count = 2 := by
    decide +kernel
  obtain ⟨accepted, count⟩ := asks r member
  have attempt : (Agent.hesitant delay).attempt earlier r 0 =
      (Agent.hesitant delay).outcome earlier r.call := by
    simp only [Bus.attempt, accepted, List.replicate_zero, List.nil_append]
  rw [attempt]
  unfold Bus.outcome Agent.hesitant
  by_cases silent : earlier.length % 2 = 0
  · simp only [silent, if_true]
    exact .inl rfl
  · simp only [silent, if_false]
    refine .inr ⟨_, if_pos ?_⟩
    exact count.symm

def tight : Setup where
  settings := .default
  devices := Scheduler.pair
  interval := 5
  intervalText := "5"
  link := (Agent.hesitantLine (some 1) 0).link
  requestsBound := 1
  readingsBound := 1
  controlsBound := 1

/-- While the agent waits for the client, all others are blocked. -/
theorem tight_never_deadlocks :
    let loop := Loop.iterate (tasks none) none 18 (.start (initial tight) Task.all)
    tight.link.Untouched ∧
      Agent.Timely tight.link.bus tight.link.timeout tight.settings ∧
      tight.link.bus.Spares tight.devices ∧ Reached tight loop ∧
      loop.running = none ∧ loop.ready = [] ∧
      loop.paused.map (fun p => (p.task, p.deadline.isSome)) =
        [(.readingsReader, false), (.controlsReader, false), (.scheduler, false),
          (.agent, true)] ∧
      Live tight loop := by
  intro loop
  have untouched : tight.link.Untouched := ⟨Agent.hesitantLine_unused _ 0, rfl, rfl, rfl, rfl⟩
  have timely : Agent.Timely tight.link.bus tight.link.timeout tight.settings :=
    Agent.hesitant_timely _ (by decide +kernel) (Agent.ofDelay_real _) (Agent.ofDelay_real _)
      (Agent.ofDelay_real _)
  have spares : tight.link.bus.Spares tight.devices := hesitant_spares (some 1)
  have reached : Reached tight loop := (Reached.start Task.all (.refl _)).iterate none 18
  have running : loop.running = none := by decide +kernel
  have ready : loop.ready = [] := by decide +kernel
  have paused : loop.paused.map (fun p => (p.task, p.deadline.isSome)) =
      [(.readingsReader, false), (.controlsReader, false), (.scheduler, false),
        (.agent, true)] := by decide +kernel
  exact ⟨untouched, timely, spares, reached, running, ready, paused,
    Reached.never_deadlocks untouched timely spares reached⟩

end Chain

end MeterPolling
