import MeterPolling.Proofs.Agent.Timed
import MeterPolling.Proofs.Deadline
/-!
The seat of one task in a loop. Its turn tells where it is among the others: it runs, it is ready, it
sleeps or waits, or it has ended. Each step of the loop moves it as its turn has it, whatever the other
tasks do, as long as nobody wakes it from a sleep.
-/
namespace MeterPolling.Loop

open Agent (Turn)

variable {τ σ : Type} {sys : Tasks τ σ} {me task : τ} {loop : Loop τ σ} {turn : Turn}

/-- Only who asked for it sleeps. -/
theorem sleeps_of_asleep {now deadline : Binary64} {pause : Pause}
    (asleep : Turn.after now pause = .asleep deadline) : ∃ delay, pause = .sleeps delay := by
  cases pause with
  | sleeps delay => exact ⟨delay, rfl⟩
  | _ => cases asleep

/-- The place of a task in a loop, as its turn. A task that is ready may still have the turn with
which it was paused. -/
structure Seated (sys : Tasks τ σ) (me : τ) (loop : Loop τ σ) (turn : Turn) : Prop where
  running : loop.running = some me ↔ turn = .running
  ready : me ∈ loop.ready → turn.Due (sys.now loop.shared)
  paused : ∀ p ∈ loop.paused, p.task = me → turn = (p.deadline.map Turn.asleep).getD .waiting

/-- A task is in a loop once, so that where it runs it neither is ready nor pauses. -/
theorem alone (once : loop.tasks.Nodup) (running : loop.running = some me) :
    me ∉ loop.ready ∧ ∀ p ∈ loop.paused, p.task ≠ me := by
  unfold tasks at once
  rw [running] at once
  have elsewhere : me ∉ loop.ready ++ loop.paused.map (·.task) := (List.nodup_cons.mp once).1
  refine ⟨fun ready => elsewhere (List.mem_append_left _ ready), fun p member same => elsewhere ?_⟩
  exact List.mem_append_right _ (List.mem_map.mpr ⟨p, member, same⟩)

theorem Seated.start (sys : Tasks τ σ) (me : τ) (shared : σ) (order : List τ) :
    Seated sys me (.start shared order) .ready :=
  ⟨⟨nofun, nofun⟩, fun _ => trivial, nofun⟩

/-- Another task runs only while this one is paused. -/
theorem Seated.paused_of_other (seated : Seated sys me loop turn)
    (running : loop.running = some task) (other : task ≠ me) : turn ≠ .running := by
  intro runs
  rw [seated.running.mpr runs] at running
  exact other (Option.some.inj running).symm

theorem Seated.paused_of_none (seated : Seated sys me loop turn) (running : loop.running = none) :
    turn ≠ .running := by
  intro runs
  rw [seated.running.mpr runs] at running
  cases running

/-- Another task has run. -/
theorem Seated.other (seated : Seated sys me loop turn) (running : loop.running = some task)
    (other : task ≠ me) (still : sys.now (sys.step task loop.shared).1 = sys.now loop.shared)
    (deaf : ∀ deadline, turn = .asleep deadline →
      sys.awake me (sys.step task loop.shared).1 = false) :
    Seated sys me (runTask sys task loop) turn := by
  have after := runTask_after sys task loop
  have shared := runTask_shared sys task loop
  have parked (p : Paused τ) (place : p ∈ loop.paused ∨ Parks sys task loop.shared p)
      (mine : p.task = me) : turn = (p.deadline.map Turn.asleep).getD .waiting := by
    rcases place with before | ⟨its, _⟩
    · exact seated.paused p before mine
    · exact absurd (its.symm.trans mine) other
  constructor
  case running =>
    refine iff_of_false (fun runs => ?_) (seated.paused_of_other running other)
    rw [after.running] at runs
    split at runs
    · exact other (Option.some.inj runs)
    · cases runs
  case ready =>
    intro ready
    rw [shared, still]
    rcases after.ready me ready with before | ⟨its, _⟩ | ⟨p, place, mine, woken⟩
    · exact seated.ready before
    · exact absurd its.symm other
    · -- who sleeps is not woken, so this task waited
      have waits := parked p place mine
      cases has : p.deadline with
      | none =>
        rw [has] at waits
        rw [waits]
        trivial
      | some deadline =>
        rw [has] at waits
        rw [shared, deaf deadline waits] at woken
        cases woken
  case paused => exact fun p member mine => parked p (after.paused p member) mine

/-- The task itself has run. -/
theorem Seated.own (once : loop.tasks.Nodup) (running : loop.running = some me)
    (deaf : ∀ delay, (sys.step me loop.shared).2 = .sleeps delay →
      sys.awake me (sys.step me loop.shared).1 = false) :
    Seated sys me (runTask sys me loop)
      (.after (sys.now (sys.step me loop.shared).1) (sys.step me loop.shared).2) := by
  have after := runTask_after sys me loop
  have shared := runTask_shared sys me loop
  obtain ⟨unready, unpaused⟩ := alone once running
  have parked (p : Paused τ) (place : p ∈ loop.paused ∨ Parks sys me loop.shared p)
      (mine : p.task = me) : Parks sys me loop.shared p :=
    place.resolve_left fun before => unpaused p before mine
  constructor
  case running =>
    rw [after.running]
    cases (sys.step me loop.shared).2 <;> simp [Turn.after]
  case ready =>
    intro ready
    rw [shared]
    rcases after.ready me ready with before | ⟨_, yields⟩ | ⟨p, place, mine, woken⟩
    · exact absurd before unready
    · rw [yields]
      trivial
    · obtain ⟨_, parks⟩ := parked p place mine
      cases pause : (sys.step me loop.shared).2 with
      | sleeps delay =>
        rw [shared, deaf delay pause] at woken
        cases woken
      | waits => trivial
      | _ =>
        rw [pause] at parks
        cases parks
  case paused =>
    intro p member mine
    obtain ⟨_, parks⟩ := parked p (after.paused p member) mine
    cases pause : (sys.step me loop.shared).2 with
    | sleeps delay =>
      rw [pause] at parks
      rw [parks]
      rfl
    | waits =>
      rw [pause] at parks
      rw [parks]
      rfl
    | _ =>
      rw [pause] at parks
      cases parks

section Pick

variable {rest : List τ}

/-- The task is let run. -/
theorem Seated.picked (once : loop.tasks.Nodup) (running : loop.running = none)
    (ready : loop.ready = me :: rest) :
    Seated sys me { loop with running := some me, ready := rest } .running := by
  unfold tasks at once
  rw [running, ready] at once
  have elsewhere : me ∉ rest ++ loop.paused.map (·.task) := (List.nodup_cons.mp once).1
  constructor
  · exact iff_of_true rfl rfl
  · exact fun again => absurd (List.mem_append_left _ again) elsewhere
  · intro p member mine
    exact absurd (List.mem_append_right _ (List.mem_map.mpr ⟨p, member, mine⟩)) elsewhere

/-- Another task is let run. -/
theorem Seated.passed (seated : Seated sys me loop turn) (running : loop.running = none)
    (ready : loop.ready = task :: rest) (other : task ≠ me) :
    Seated sys me { loop with running := some task, ready := rest } turn := by
  constructor
  case running =>
    exact iff_of_false (fun runs => other (Option.some.inj runs)) (seated.paused_of_none running)
  case ready => exact fun member => seated.ready (ready ▸ List.mem_cons_of_mem task member)
  case paused => exact seated.paused

theorem passed_present (present : Present loop me) (running : loop.running = none)
    (ready : loop.ready = task :: rest) (other : task ≠ me) :
    Present { loop with running := some task, ready := rest } me := by
  rcases present with runs | member | paused
  · rw [running] at runs
    cases runs
  · rw [ready] at member
    exact .inr (.inl (List.mem_of_ne_of_mem (Ne.symm other) member))
  · exact .inr (.inr paused)

end Pick

section Clock

variable {deadline : Binary64}

/-- Where no task runs and none is ready, a task that has not ended is paused. -/
theorem Idle.parked (idle : Idle loop) (present : Present loop me) :
    ∃ p ∈ loop.paused, p.task = me := by
  rcases present with runs | ready | paused
  · rw [idle.running] at runs
    cases runs
  · rw [idle.ready] at ready
    cases ready
  · exact paused

/-- A paused task sleeps or waits. -/
theorem Seated.asleep_or_waiting (seated : Seated sys me loop turn)
    (parked : ∃ p ∈ loop.paused, p.task = me) : (∃ d, turn = .asleep d) ∨ turn = .waiting := by
  obtain ⟨p, member, mine⟩ := parked
  have place := seated.paused p member mine
  cases has : p.deadline with
  | none =>
    rw [has] at place
    exact .inr place
  | some d =>
    rw [has] at place
    exact .inl ⟨d, place⟩

/-- The clock moves no further than to the end of a sleep. -/
theorem Seated.wait_le (seated : Seated sys me loop turn) (parked : ∃ p ∈ loop.paused, p.task = me)
    (ahead : Ahead sys loop) (earliest : earliest? loop.paused = some deadline) {d : Binary64}
    (asleep : turn = .asleep d) : deadline ≤ d := by
  obtain ⟨p, member, mine⟩ := parked
  have place := seated.paused p member mine
  have numbers : ∀ p ∈ loop.paused, ∀ d ∈ p.deadline, d.isNaN = false :=
    fun p member d has => (ahead.deadlines p member d has).2.1
  cases has : p.deadline with
  | none =>
    rw [has, asleep] at place
    cases place
  | some d' =>
    rw [has, asleep] at place
    cases place
    exact earliest_le numbers earliest p member d has

/-- The clock has moved. -/
theorem Seated.wait (seated : Seated sys me loop turn) (idle : Idle loop) (ahead : Ahead sys loop)
    (sets : ∀ now s, sys.now (sys.setNow now s) = now) (number : deadline.isNaN = false) :
    Seated sys me (moveClock sys deadline loop) turn := by
  unfold moveClock
  rw [List.partition_eq_filter_filter]
  constructor
  case running =>
    refine iff_of_false (fun runs => ?_) (seated.paused_of_none idle.running)
    rw [idle.running] at runs
    cases runs
  case ready =>
    intro due
    obtain ⟨p, left, mine⟩ := List.mem_map.mp due
    obtain ⟨member, reached⟩ := List.mem_filter.mp left
    have place := seated.paused p member mine
    rw [sets]
    cases has : p.deadline with
    | none =>
      rw [has] at reached
      cases reached
    | some d =>
      rw [has] at reached place
      have order : deadline.less d = false := by simpa using reached
      rw [place]
      exact ⟨(ahead.deadlines p member d has).2.1, number, order⟩
  case paused => exact fun p left mine => seated.paused p (List.mem_filter.mp left).1 mine

end Clock

end MeterPolling.Loop
