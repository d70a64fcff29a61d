import MeterPolling.Proofs.Scheduler.Bench
import MeterPolling.Proofs.Scheduler.Timed
/-!
On the bench a scheduler runs on a clock. Its worker takes one request at a time and acknowledges it
when it has been busy with it for long enough; the clock moves only when neither of the two can run,
and then to the end of the shorter sleep. So each state of the loop is one of a timed run.
-/
namespace MeterPolling.Scheduler.Bench

open Agent (Turn)

variable {devices : List (Int × Producer)} {interval : Number} {text : String} {bound : Nat}
  {link : Link} {loop next : Loop Task State} {s : State} {log : Log} {turn : Turn}

/-- The scheduler is in a timed run. What was put and not acknowledged waits, or the worker is busy
with it. -/
structure Reaches (devices : List (Int × Producer)) (interval : Number) (text : String) (bound : Nat)
    (link : Link) (s : State) (turn : Turn) : Prop where
  timed : ∃ log, Timed (make devices interval text) (.make link bound 0 0) log s.scheduler s.line turn
  outstanding : s.line.requests.unacknowledged =
    s.line.requests.items.length + s.worker.busy.toNat

structure Located (devices : List (Int × Producer)) (interval : Number) (text : String)
    (bound : Nat) (link : Link) (loop : Loop Task State) (turn : Turn) : Prop where
  reaches : Reaches devices interval text bound link loop.shared turn
  seated : Loop.Seated tasks .scheduler loop turn
  present : turn ≠ .gone → Loop.Present loop .scheduler

structure Clocked (devices : List (Int × Producer)) (interval : Number) (text : String)
    (bound : Nat) (link : Link) (loop : Loop Task State) : Prop where
  once : loop.tasks.Nodup
  ahead : Loop.Ahead tasks loop
  settled : Loop.Settled tasks loop
  located : ∃ turn, Located devices interval text bound link loop turn

theorem clockwork : Loop.Clockwork tasks := by
  refine ⟨fun task s => ?_, fun now s => rfl⟩
  cases task with
  | scheduler => exact (step_effect s.scheduler s.line).now
  | worker =>
    change (stepWorker s).1.line.now = s.line.now
    unfold stepWorker
    simp only
    split
    · rfl
    · split <;> rfl

/-- What the scheduler puts waits. -/
theorem Effect.outstanding {line line' : Line} {n : Nat} (effect : Effect line line')
    (outstanding : line.requests.unacknowledged = line.requests.items.length + n) :
    line'.requests.unacknowledged = line'.requests.items.length + n := by
  cases effect with
  | put request room =>
    change line.requests.unacknowledged + 1 = (line.requests.items ++ [some request]).length + n
    rw [List.length_append, List.length_singleton, outstanding]
    omega
  | _ => exact outstanding

theorem Reaches.step (reaches : Reaches devices interval text bound link s .running) :
    Reaches devices interval text bound link (step .scheduler s).1
      (.after (s.scheduler.step s.line).2.1.now (s.scheduler.step s.line).2.2) := by
  obtain ⟨⟨log, timed⟩, outstanding⟩ := reaches
  exact ⟨⟨_, timed.step⟩, Effect.outstanding (step_effect s.scheduler s.line) outstanding⟩

/-- The worker leaves the scheduler where it is, and is never busy for less than no time. -/
theorem Reaches.worker (reaches : Reaches devices interval text bound link s turn)
    (paused : turn ≠ .running) :
    Reaches devices interval text bound link (stepWorker s).1 turn ∧
      (stepWorker s).1.scheduler = s.scheduler ∧
      ∀ delay, (stepWorker s).2 = .sleeps delay → Binary64.zero ≤ delay := by
  obtain ⟨⟨log, timed⟩, outstanding⟩ := reaches
  unfold stepWorker
  simp only
  cases busy : s.worker.busy with
  | true =>
    rw [busy, Bool.toNat_true] at outstanding
    have taken : s.line.requests.items.length < s.line.requests.unacknowledged := by omega
    refine ⟨⟨⟨_, timed.acknowledge paused taken⟩, ?_⟩, rfl, nofun⟩
    change s.line.requests.unacknowledged - 1 = s.line.requests.items.length + 0
    omega
  | false =>
    cases takes : s.line.requests.take? with
    | none => exact ⟨⟨⟨log, timed⟩, outstanding⟩, rfl, nofun⟩
    | some pair =>
      obtain ⟨item, left⟩ := pair
      refine ⟨⟨⟨log, timed.take item left paused takes⟩, ?_⟩, rfl, fun delay sleeps => ?_⟩
      · rw [busy, Bool.toNat_false] at outstanding
        unfold Channel.take? at takes
        split at takes
        · cases takes
        · rename_i items
          rw [items, List.length_cons] at outstanding
          cases takes
          exact outstanding
      · exact Pause.sleeps_or_ends sleeps

/-! ## The loop -/

theorem worker_ne_scheduler : Task.worker ≠ .scheduler := by decide

/-- The scheduler has run. -/
theorem Located.scheduled (located : Located devices interval text bound link loop turn)
    (once : loop.tasks.Nodup) (running : loop.running = some .scheduler) :
    ∃ turn', Located devices interval text bound link (loop.runTask tasks .scheduler) turn' := by
  obtain ⟨reaches, seated, _⟩ := located
  obtain rfl := seated.running.mp running
  refine ⟨_, ?_, .own once running fun delay sleeps => ?_, fun stays => ?_⟩
  · rw [Loop.runTask_shared]
    exact reaches.step
  · change (loop.shared.scheduler.step loop.shared.line).1.awake _ = false
    rw [awake, (step_sleeps sleeps).1]
  · refine (Loop.runTask_self tasks .scheduler loop).resolve_right fun ends => stays ?_
    have last : (loop.shared.scheduler.step loop.shared.line).2.2 = .ends := ends
    change Turn.after _ (loop.shared.scheduler.step loop.shared.line).2.2 = .gone
    rw [last]
    rfl

/-- The worker has run. -/
theorem Located.worked (located : Located devices interval text bound link loop turn)
    (running : loop.running = some .worker) :
    Located devices interval text bound link (loop.runTask tasks .worker) turn := by
  obtain ⟨reaches, seated, present⟩ := located
  have paused := seated.paused_of_other running worker_ne_scheduler
  obtain ⟨reaches', same, _⟩ := reaches.worker paused
  constructor
  case reaches =>
    rw [Loop.runTask_shared]
    exact reaches'
  case seated =>
    apply seated.other running worker_ne_scheduler (clockwork.still .worker _)
    intro deadline asleep
    obtain ⟨log, timed⟩ := reaches.timed
    rw [asleep] at timed
    change (stepWorker loop.shared).1.scheduler.awake _ = false
    rw [same]
    exact timed.deaf _
  case present =>
    exact fun stays => Loop.runTask_other tasks running worker_ne_scheduler.symm (present stays)

/-- The scheduler lets the clock move to the end of the shortest sleep. -/
theorem Located.lets {deadline : Binary64}
    (located : Located devices interval text bound link loop turn) (idle : Loop.Idle loop)
    (ahead : Loop.Ahead tasks loop) (settled : Loop.Settled tasks loop)
    (earliest : Loop.earliest? loop.paused = some deadline) :
    Lets loop.shared.scheduler loop.shared.line deadline turn := by
  by_cases gone : turn = .gone
  · rw [gone]
    trivial
  · have parked := idle.parked (located.present gone)
    rcases located.seated.asleep_or_waiting parked with ⟨d, asleep⟩ | waiting
    · rw [asleep]
      exact located.seated.wait_le parked ahead earliest asleep
    · obtain ⟨p, member, mine⟩ := parked
      have asleep := settled p member
      rw [mine] at asleep
      rw [waiting]
      exact asleep

/-- Each step of the loop goes on with the run. -/
theorem Clocked.goes_on (clocked : Clocked devices interval text bound link loop)
    (step : Loop.Step tasks loop next) : Clocked devices interval text bound link next := by
  obtain ⟨once, ahead, settled, turn, located⟩ := clocked
  have lengths : Loop.Sleeps tasks loop := by
    intro task delay running sleeps
    cases task with
    | scheduler => exact (step_sleeps sleeps).2
    | worker =>
      have paused := located.seated.paused_of_other running worker_ne_scheduler
      exact (located.reaches.worker paused).2.2 delay sleeps
  obtain ⟨ahead', later⟩ := step.ahead clockwork lengths ahead
  refine ⟨step.nodup once, ahead', step.settled (fun task now s => ?_) settled, ?_⟩
  · cases task <;> rfl
  cases step with
  | run task running =>
    cases task with
    | scheduler => exact located.scheduled once running
    | worker => exact ⟨turn, located.worked running⟩
  | pick task rest running ready =>
    obtain ⟨reaches, seated, present⟩ := located
    cases task with
    | scheduler =>
      obtain ⟨⟨log, timed⟩, outstanding⟩ := reaches
      have due := seated.ready (ready ▸ List.mem_cons_self)
      exact ⟨.running, ⟨⟨log, timed.resume due⟩, outstanding⟩, .picked once running ready,
        fun _ => .inl rfl⟩
    | worker =>
      exact ⟨turn, reaches, seated.passed running ready worker_ne_scheduler, fun stays =>
        Loop.passed_present (present stays) running ready worker_ne_scheduler⟩
  | wait deadline running ready earliest =>
    have idle : Loop.Idle loop := ⟨running, ready⟩
    have lets := located.lets idle ahead settled earliest
    obtain ⟨⟨⟨log, timed⟩, outstanding⟩, seated, present⟩ := located
    exact ⟨turn, ⟨⟨log, timed.clock deadline lets⟩, outstanding⟩,
      seated.wait idle ahead clockwork.sets later.2.1, fun stays =>
        Loop.moveClock_present tasks deadline (idle.parked (present stays))⟩

def initial (devices : List (Int × Producer)) (interval : Number) (text : String) (bound : Nat)
    (efforts : List Number) (link : Link) : State :=
  ⟨.make link bound 0 0, make devices interval text, ⟨efforts, 0, 0, false⟩⟩

theorem start_clocked (start : Binary64.zero ≤ link.now) (efforts : List Number) {order : List Task}
    (once : order.Nodup) (member : .scheduler ∈ order) :
    Clocked devices interval text bound link
      (.start (initial devices interval text bound efforts link) order) := by
  refine ⟨?_, ⟨start, nofun⟩, nofun, .ready, ⟨⟨_, .start⟩, rfl⟩, .start _ _ _ _, fun _ => ?_⟩
  · rw [Loop.tasks, Loop.start]
    simpa using once
  · exact .inr (.inl member)

/-- Every state of the bench is one of a timed run. -/
theorem iterate_reaches (start : Binary64.zero ≤ link.now) (efforts : List Number)
    (alarm : Option Binary64) (n : Nat) :
    ∃ turn, Reaches devices interval text bound link
      (Loop.iterate tasks alarm n
        (.start (initial devices interval text bound efforts link) [.scheduler, .worker])).shared
      turn := by
  have once : [Task.scheduler, .worker].Nodup := by decide
  have clocked : Clocked devices interval text bound link
      (Loop.iterate tasks alarm n
        (.start (initial devices interval text bound efforts link) [.scheduler, .worker])) :=
    Loop.iterate_steps (fun holds stepped => Clocked.goes_on holds (Loop.step_of_step? stepped).2) n
      (start_clocked start efforts once List.mem_cons_self)
  obtain ⟨turn, located⟩ := clocked.located
  exact ⟨turn, located.reaches⟩

end MeterPolling.Scheduler.Bench
