import MeterPolling.Proofs.Deadline
import MeterPolling.Proofs.Polling.Order
import MeterPolling.Proofs.Polling.Tended
/-!
The loop that polling runs in comes to its end. No task is lost or doubled, so that when nothing is
left to do but to wait, nobody was told to end; and once the tasks are told, each of them has but
one step left, and the supervisor is done after the last of them.
-/
namespace MeterPolling.Polling

/-- Every task is in the loop once or has ended, and none is paused while there is something for it
to do. -/
structure Staffed (loop : Loop (Option Task) Polling) : Prop where
  tended : loop.shared.Tended loop.shared.interrupted
  settled : loop.Settled supervised
  present : ∀ task, loop.Present task ∨ Gone task loop.shared
  once : loop.tasks.Nodup
  heeded : ∀ p ∈ loop.paused, p.task = none → loop.shared.supervisor ≠ .alerted

variable {loop next : Loop (Option Task) Polling} {p : Polling}

theorem staffed_start (tended : p.Tended p.interrupted) :
    Staffed (.start p (none :: allTasks.map some)) where
  tended := tended
  settled _ member := by cases member
  present task := by
    refine .inl (.inr (.inl ?_))
    cases task with
    | none => exact List.mem_cons_self
    | some task => cases task <;> simp [Loop.start, allTasks]
  once := by simp [Loop.tasks, Loop.start, allTasks]
  heeded _ member := by cases member

/-- The supervisor pauses only to wait, and then it leaves all as it was. -/
theorem stepSupervisor_pause (p : Polling) :
    p.stepSupervisor.2 = .continues ∨ p.stepSupervisor.2 = .yields ∨ p.stepSupervisor.2 = .ends ∨
      p.stepSupervisor.2 = .waits ∧ p.stepSupervisor.1 = p ∧ p.supervisor ≠ .alerted ∧
        p.supervisorAwake = false := by
  unfold stepSupervisor supervisorAwake
  cases supervisor : p.supervisor with
  | watching =>
    by_cases interrupted : p.interrupted = true
    · simp [interrupted]
    · by_cases failed : p.failure.isSome = true
      · simp [interrupted, failed]
      · by_cases ended : p.allEnded = true
        · simp [interrupted, failed, ended]
        · simp [interrupted, failed, ended]
  | alerted => exact .inl rfl
  | draining => by_cases ended : p.allEnded = true <;> simp [ended]
  | done => exact .inr (.inr (.inl rfl))

/-- Whoever runs is not paused as well. -/
theorem Staffed.unpaused (staffed : Staffed loop) {task : Option Task}
    (running : loop.running = some task) {q : Paused (Option Task)} (member : q ∈ loop.paused) :
    q.task ≠ task := by
  have once := staffed.once
  rw [Loop.tasks, running, Option.toList_some, List.singleton_append, List.nodup_cons] at once
  rintro rfl
  exact once.1 (List.mem_append_right _ (List.mem_map_of_mem member))

theorem Staffed.step (staffed : Staffed loop) (step : Loop.Step supervised loop next) :
    Staffed next where
  tended := by
    refine step.shared (P := fun p => p.Tended p.interrupted) (fun task p tended => ?_)
      (fun now p tended => tended.withLink _) staffed.tended
    cases task with
    | none => exact (p.stepSupervisor_interrupted).symm ▸ tended.stepSupervisor
    | some task =>
      have stepped := tended.stepTask task
      exact stepped.interruption.symm ▸ stepped
  settled := step.settled supervised_timeless staffed.settled
  present task := step.present supervised_ends supervised_stays supervised_clock
    (staffed.present task)
  once := step.nodup staffed.once
  heeded := by
    cases step with
    | run task running =>
      intro q member supervisor
      have parked := (Loop.runTask_after supervised task loop).paused q member
      rw [Loop.runTask_shared]
      cases task with
      | none =>
        rcases parked with before | ⟨_, parks⟩
        · exact absurd supervisor (staffed.unpaused running before)
        · -- the supervisor only pauses to wait
          rcases loop.shared.stepSupervisor_pause with
            pause | pause | pause | ⟨_, same, unalerted, _⟩
          · simp [supervised, pause] at parks
          · simp [supervised, pause] at parks
          · simp [supervised, pause] at parks
          · exact same.symm ▸ unalerted
      | some task =>
        refine (loop.shared.stepTask_supervisor task).symm ▸ ?_
        rcases parked with before | ⟨same, _⟩
        · exact staffed.heeded q before supervisor
        · rw [supervisor] at same
          cases same
    | pick task rest running ready => exact staffed.heeded
    | wait deadline running ready earliest =>
      intro q member
      unfold Loop.moveClock at member
      rw [List.partition_eq_filter_filter] at member
      exact staffed.heeded q (List.mem_filter.mp member).1

theorem Staffed.iterate (staffed : Staffed loop) (alarm : Option Binary64) (n : Nat) :
    Staffed (Loop.iterate supervised alarm n loop) :=
  Loop.iterate_steps (fun staffed stepped => staffed.step (Loop.step_of_step? stepped).2) n staffed

/-! ## When nothing is left to do but to wait -/

/-- The supervisor then watches over the tasks, unless it is done. -/
theorem Staffed.watches (staffed : Staffed loop) (idle : loop.Idle)
    (unfinished : loop.shared.isDone = false) :
    loop.shared.cancelled = false ∧ loop.shared.supervisor = .watching ∧
      ∃ q ∈ loop.paused, q.task = none := by
  have undone : loop.shared.supervisor ≠ .done := by simpa [isDone] using unfinished
  have present : loop.Present none := (staffed.present none).resolve_right undone
  have asleep : loop.shared.supervisorAwake = false :=
    Loop.idle_asleep staffed.settled idle present
  have paused : ∃ q ∈ loop.paused, q.task = none := by
    simpa [Loop.Present, idle.running, idle.ready] using present
  obtain ⟨q, member, supervisor⟩ := paused
  have unalerted := staffed.heeded q member supervisor
  have untold : loop.shared.cancelled = false := by
    cases told : loop.shared.cancelled with
    | false => rfl
    | true =>
      -- once they are told to end all tasks are awake, so that none of them is left
      have ended : loop.shared.allEnded = true := by
        refine allEnded_iff.mpr fun task => (staffed.present (some task)).resolve_left ?_
        intro present
        have asleep := Loop.idle_asleep staffed.settled idle present
        simp [supervised, taskAwake, told] at asleep
      unfold supervisorAwake at asleep
      cases supervisor : loop.shared.supervisor <;> simp_all
  refine ⟨untold, ?_, q, member, supervisor⟩
  cases supervisor : loop.shared.supervisor with
  | watching => rfl
  | alerted => exact absurd supervisor unalerted
  | draining =>
    have told := staffed.tended.told (.inl supervisor)
    rw [untold] at told
    cases told
  | done => exact absurd supervisor undone

/-! ## Once the tasks are told to end -/

structure Told (loop : Loop (Option Task) Polling) : Prop extends Staffed loop where
  told : loop.shared.cancelled = true
  draining : loop.shared.supervisor = .draining ∨ loop.shared.supervisor = .done

/-- What the steps of a task cost that is still to run; a task that runs may wake the supervisor. -/
def cost : Option Task → Nat
  | none => 1
  | some _ => 4

/-- What tasks cost that are ready; before it runs each of them has to be picked. -/
def costs (tasks : List (Option Task)) : Nat := (tasks.map fun task => cost task + 1).sum

def left (loop : Loop (Option Task) Polling) : Nat :=
  loop.running.elim 0 cost + costs loop.ready

theorem cost_le (task : Option Task) : cost task ≤ 4 := by cases task <;> simp [cost]

theorem costs_cons (task : Option Task) (tasks : List (Option Task)) :
    costs (task :: tasks) = cost task + 1 + costs tasks := by
  simp [costs]

theorem costs_append (tasks others : List (Option Task)) :
    costs (tasks ++ others) = costs tasks + costs others := by
  simp [costs]

theorem costs_le (tasks : List (Option Task)) : costs tasks ≤ 5 * tasks.length := by
  induction tasks with
  | nil => simp [costs]
  | cons task tasks ih =>
    have one := cost_le task
    rw [costs_cons, List.length_cons]
    omega

theorem Staffed.left_le (staffed : Staffed loop) : left loop ≤ 25 := by
  have ready := costs_le loop.ready
  have running : loop.running.elim 0 cost ≤ 5 * loop.running.toList.length := by
    cases loop.running with
    | none => simp
    | some task => exact Nat.le_trans (cost_le task) (by simp)
  have few : loop.tasks.length ≤ 5 := by
    have everyone : loop.tasks ⊆ none :: allTasks.map some := fun task _ => by
      cases task with
      | none => exact List.mem_cons_self
      | some task => cases task <;> simp [allTasks]
    exact (List.subperm_of_subset staffed.once everyone).length_le
  simp only [Loop.tasks, List.length_append] at few
  unfold left
  omega

/-- Whoever was told to end is awake, so that only the supervisor is paused. -/
theorem Told.paused (told : Told loop) : ∀ q ∈ loop.paused, q.task = none := by
  intro q member
  cases task : q.task with
  | none => rfl
  | some task' =>
    have asleep := told.settled q member
    simp [supervised, taskAwake, told.told, task] at asleep

theorem stepTask_told_ends (told : p.cancelled = true) (task : Task) :
    (p.stepTask task).2 = .ends := by
  unfold stepTask
  split
  · rfl
  · rfl

/-- The supervisor, wherever it stands among paused tasks, is woken at most once. -/
theorem Told.woken (told : Told loop) (awake : Paused (Option Task) → Bool) :
    costs ((loop.paused.filter awake).map (·.task)) ≤ 2 := by
  have once : ((loop.paused.filter awake).map (·.task)).Nodup :=
    (List.nodup_append.mp (List.nodup_append.mp told.once).2.1).2.1.sublist
      (List.filter_sublist.map _)
  have supervisor : ∀ task ∈ (loop.paused.filter awake).map (·.task), task = none := by
    intro task member
    obtain ⟨q, woken, rfl⟩ := List.mem_map.mp member
    exact told.paused q (List.mem_filter.mp woken).1
  generalize (loop.paused.filter awake).map (·.task) = woken at once supervisor ⊢
  match woken with
  | [] => simp [costs]
  | [task] =>
    rw [supervisor task List.mem_cons_self]
    simp [costs, cost]
  | first :: second :: rest =>
    have same : first = second := by
      rw [supervisor first (by simp), supervisor second (by simp)]
    simp [same] at once

theorem left_wake (loop : Loop (Option Task) Polling) :
    left (Loop.wake supervised loop) = left loop +
      costs ((loop.paused.filter fun q => supervised.awake q.task loop.shared).map (·.task)) := by
  unfold Loop.wake left
  rw [List.partition_eq_filter_filter]
  simp only [costs_append, Nat.add_assoc]

theorem left_running {task : Option Task} (running : loop.running = some task) :
    left loop = cost task + costs loop.ready := by
  rw [left, running, Option.elim_some]

/-- A step of the supervisor while it waits for the tasks: either all have ended and so does it, or
it goes on to wait. -/
theorem Told.supervisor (told : Told loop) (running : loop.running = some none)
    (draining : loop.shared.supervisor = .draining) :
    (loop.shared.stepSupervisor.1.supervisor = .draining ∨
      loop.shared.stepSupervisor.1.supervisor = .done) ∧
    left (Loop.runTask supervised none loop) < left loop := by
  -- nobody is paused, as the tasks are awake and the supervisor runs
  have nobody : loop.paused = [] := by
    refine List.eq_nil_iff_forall_not_mem.mpr fun q member => ?_
    exact told.unpaused running member (told.paused q member)
  rw [left_running running, Loop.runTask_eq, left_wake]
  by_cases ended : loop.shared.allEnded = true
  · have stepped : supervised.step none loop.shared =
        ({ loop.shared with supervisor := .done }, .ends) := by
      simp [supervised, stepSupervisor, draining, ended]
    have after := congrArg Prod.fst stepped
    rw [Loop.leave_ends (congrArg Prod.snd stepped), nobody]
    refine ⟨.inr (congrArg Polling.supervisor after), ?_⟩
    simp [left, cost, costs]
  · have stepped : supervised.step none loop.shared = (loop.shared, .waits) := by
      simp [supervised, stepSupervisor, draining, ended]
    have after := congrArg Prod.fst stepped
    have asleep : supervised.awake none loop.shared = false := by
      simp [supervised, supervisorAwake, draining, ended]
    rw [Loop.leave_waits (congrArg Prod.snd stepped), nobody, after]
    refine ⟨.inl ((congrArg Polling.supervisor after).trans draining), ?_⟩
    simp [left, cost, costs, asleep]

/-- Each step of a task is its last, and the supervisor waits for that. -/
theorem Told.step (told : Told loop) (unfinished : loop.shared.isDone = false)
    (step : Loop.Step supervised loop next) : Told next ∧ left next < left loop := by
  have staffed := told.toStaffed.step step
  cases step with
  | run task running =>
    cases task with
    | none =>
      have undone : loop.shared.supervisor ≠ .done := by simpa [isDone] using unfinished
      obtain ⟨waits, less⟩ := told.supervisor running (told.draining.resolve_right undone)
      refine ⟨⟨staffed, ?_, ?_⟩, less⟩
      · rw [Loop.runTask_shared]
        exact stepSupervisor_told told.told
      · rw [Loop.runTask_shared]
        exact waits
    | some task =>
      have acts := stepTask_acts (told.tended.known task)
      have ends : (supervised.step (some task) loop.shared).2 = .ends :=
        stepTask_told_ends told.told task
      refine ⟨⟨staffed, ?_, ?_⟩, ?_⟩
      · rw [Loop.runTask_shared]
        exact acts.cancelled.trans told.told
      · rw [Loop.runTask_shared]
        exact acts.supervisor ▸ told.draining
      · have woken := told.woken fun q =>
          supervised.awake q.task (supervised.step (some task) loop.shared).1
        have four : cost (some task) = 4 := rfl
        rw [left_running running, Loop.runTask_eq, left_wake, Loop.leave_ends ends, left,
          Option.elim_none]
        dsimp only
        omega
  | pick task rest running ready =>
    refine ⟨⟨staffed, told.told, told.draining⟩, ?_⟩
    rw [left_running rfl, left, running, ready, costs_cons, Option.elim_none]
    dsimp only
    omega
  | wait deadline running ready earliest =>
    have untold := (told.watches ⟨running, ready⟩ unfinished).1
    rw [told.told] at untold
    cases untold

/-- Polling is done soon after its tasks were told to end. -/
theorem Told.ends (told : Told loop) {n : Nat} (enough : 25 ≤ n) :
    (Loop.iterate supervised none n loop).shared.isDone = true := by
  have takes {loop next : Loop (Option Task) Polling} (told : Told loop)
      (stepped : Loop.step? supervised none loop = some next) : Told next ∧ left next < left loop :=
    told.step (Loop.step_of_step? stepped).1 (Loop.step_of_step? stepped).2
  have rests := Loop.iterate_rests takes n told (Nat.le_trans told.left_le enough)
  have last := Loop.iterate_steps (P := Told) (fun told stepped => (takes told stepped).1) n told
  cases unfinished : (Loop.iterate supervised none n loop).shared.isDone with
  | true => rfl
  | false =>
    have untold := (last.watches (Loop.idle_of_rest unfinished rests) unfinished).1
    rw [last.told] at untold
    cases untold

/-! ## When polling is interrupted -/

theorem Staffed.elapse (staffed : Staffed loop) (now : Binary64) :
    Staffed (Polling.elapse now loop) where
  tended := staffed.tended.withLink _
  settled q member := (supervised_timeless q.task now loop.shared).trans (staffed.settled q member)
  present task := (staffed.present task).imp_right (supervised_clock now task loop.shared)
  once := staffed.once
  heeded := staffed.heeded

theorem Staffed.interrupt (staffed : Staffed loop) : Staffed (Polling.interrupt loop) where
  tended := staffed.tended.interrupt
  settled := Loop.wake_settled supervised _
  present task := (staffed.present task).imp (Loop.wake_present supervised) fun gone => by
    cases task with
    | none => exact gone
    | some task => cases task <;> exact gone
  once := (Loop.wake_tasks supervised _).nodup_iff.mpr staffed.once
  heeded q member := by
    unfold Polling.interrupt at member
    have paused := Loop.wake_paused member
    exact staffed.heeded q paused

/-- An interruption that finds everybody waiting wakes the supervisor, and nobody else. -/
theorem Staffed.interrupt_ready (staffed : Staffed loop) (idle : loop.Idle)
    (unfinished : loop.shared.isDone = false) :
    (Polling.interrupt loop).running = none ∧
      ∃ rest, (Polling.interrupt loop).ready = none :: rest := by
  obtain ⟨_, watching, q, paused, supervisor⟩ := staffed.watches idle unfinished
  refine ⟨idle.running, ?_⟩
  have woken : none ∈ (Polling.interrupt loop).ready := by
    unfold Polling.interrupt Loop.wake
    rw [List.partition_eq_filter_filter]
    apply List.mem_append_right
    refine List.mem_map.mpr ⟨q, List.mem_filter.mpr ⟨paused, ?_⟩, supervisor⟩
    simp [supervised, supervisor, supervisorAwake, watching]
  have nobody_else : ∀ task ∈ (Polling.interrupt loop).ready, task = none := by
    intro task member
    rcases Loop.wake_ready member with ready | ⟨q, paused, rfl, awake⟩
    · rw [idle.ready] at ready
      cases ready
    · cases task : q.task with
      | none => rfl
      | some task' =>
        have asleep := staffed.settled q paused
        rw [task] at awake asleep
        exact absurd awake (Bool.eq_false_iff.mp asleep)
  cases ready : (Polling.interrupt loop).ready with
  | nil => simp [ready] at woken
  | cons first rest =>
    rw [nobody_else first (by simp [ready])]
    exact ⟨rest, rfl⟩

/-- Two steps later the supervisor has told all tasks to end. -/
theorem Staffed.interrupt_tells (staffed : Staffed loop) (idle : loop.Idle)
    (unfinished : loop.shared.isDone = false) (n : Nat) :
    ∃ next, Told next ∧ next.shared = loop.shared.halt ∧
      Loop.iterate supervised none (n + 2) (Polling.interrupt loop) =
        Loop.iterate supervised none n next := by
  obtain ⟨_, watching, _⟩ := staffed.watches idle unfinished
  obtain ⟨running, rest, ready⟩ := staffed.interrupt_ready idle unfinished
  have open_end : supervised.finished (Polling.interrupt loop).shared = false := unfinished
  let picked : Loop (Option Task) Polling :=
    { Polling.interrupt loop with running := some none, ready := rest }
  have first : Loop.step? supervised none (Polling.interrupt loop) = some picked := by
    simp only [Loop.step?, open_end, running, ready, Bool.false_eq_true, if_false, picked]
  have second : Loop.step? supervised none picked =
      some (Loop.runTask supervised none picked) := by
    have open_end : supervised.finished picked.shared = false := unfinished
    simp only [Loop.step?, open_end, Bool.false_eq_true, if_false, picked]
  have shared : (Loop.runTask supervised none picked).shared = loop.shared.halt := by
    rw [Loop.runTask_shared]
    change ({ loop.shared with interrupted := true } : Polling).stepSupervisor.1 = _
    simp [stepSupervisor, watching, halt]
  have next := (staffed.interrupt.step (Loop.step_of_step? first).2).step
    (Loop.step_of_step? second).2
  refine ⟨_, ⟨next, ?_, ?_⟩, shared, ?_⟩
  · rw [shared]
    rfl
  · rw [shared]
    exact .inl rfl
  · simp only [Loop.iterate, first, second]

end MeterPolling.Polling
