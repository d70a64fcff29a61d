import MeterPolling.Proofs.Polling.Ending
/-!
The tasks of polling and the supervisor over them, whatever they poll. A task is only told to end
after a failure or an interruption; the failure that is kept is the one that came first; and the
supervisor is not done before every task has ended.
-/
namespace MeterPolling.Polling

def failed? (p : Polling) : Task → Option Failure
  | .readingsReporter | .controlsReporter => none
  | .scheduler =>
    match p.scheduler.stage with
    | .failed f => some f
    | _ => none
  | .agent =>
    match p.agent.stage with
    | .ended (.failed f) => some f
    | _ => none

/-- Polling is interrupted, and its tasks are told to end. -/
def halt (p : Polling) : Polling :=
  { p with interrupted := true, cancelled := true, supervisor := .draining }

/-- The agent ends without having begun. -/
def dropAgent (p : Polling) : Polling :=
  { p with agent := { p.agent with stage := .ended .cancelled } }

variable {p next : Polling} {task : Task}

/-- What a task leaves as it is, and what it reports. -/
structure Acts (p : Polling) (task : Task) (next : Polling) : Prop where
  supervisor : next.supervisor = p.supervisor
  cancelled : next.cancelled = p.cancelled
  interrupted : next.interrupted = p.interrupted
  failure : next.failure = p.failure.or (next.failed? task)
  others : ∀ other, other ≠ task → next.failed? other = p.failed? other
  reporter : next.readingsReporterEnded = true →
    p.readingsReporterEnded = true ∨ p.cancelled = true

theorem endTask_failed (active : p.hasEnded task = false) :
    (p.endTask task).failed? task = none := by
  cases task with
  | readingsReporter => rfl
  | controlsReporter => rfl
  | scheduler =>
    simp only [hasEnded, Scheduler.hasEnded] at active
    simp only [endTask, failed?, Scheduler.cancel]
    cases stage : p.scheduler.stage <;> simp_all
  | agent =>
    simp only [hasEnded, Agent.outcome?] at active
    simp only [endTask, failed?, Agent.cancel]
    cases stage : p.agent.stage <;> simp_all

theorem endTask_acts (told : p.cancelled = true) (active : p.hasEnded task = false) :
    p.Acts task (p.endTask task) := by
  have failed := endTask_failed active
  refine ⟨?_, ?_, ?_, ?_, fun other different => ?_, fun _ => .inr told⟩
  case refine_4 =>
    rw [failed, Option.or_none]
    cases task <;> rfl
  case refine_5 =>
    cases task <;> cases other <;> first | exact absurd rfl different | rfl
  all_goals cases task <;> rfl

/-- Whatever a task does, it changes nothing of what is said of the others, and its failure is
kept unless there was one before. -/
theorem stepTask_acts (known : ∀ f, p.failed? task = some f → p.failure.isSome = true) :
    p.Acts task (p.stepTask task).1 := by
  unfold stepTask
  split
  · refine ⟨rfl, rfl, rfl, ?_, fun _ _ => rfl, .inl⟩
    cases failed : p.failed? task with
    | none => rw [Option.or_none]
    | some f => rw [Option.or_of_isSome (known f failed)]
  · rename_i active
    split
    · rename_i told
      exact endTask_acts told (Bool.eq_false_iff.mpr active)
    · cases task with
      | readingsReporter =>
        simp only [reportReading]
        split <;> exact ⟨rfl, rfl, rfl, (Option.or_none).symm, fun _ _ => rfl, .inl⟩
      | controlsReporter =>
        simp only [reportControl]
        split <;> exact ⟨rfl, rfl, rfl, (Option.or_none).symm, fun _ _ => rfl, .inl⟩
      | scheduler =>
        refine ⟨rfl, rfl, rfl, rfl, fun other different => ?_, .inl⟩
        cases other <;> first | exact absurd rfl different | rfl
      | agent =>
        refine ⟨rfl, rfl, rfl, rfl, fun other different => ?_, .inl⟩
        cases other <;> first | exact absurd rfl different | rfl

/-- A task that is told to end does not fail any more. -/
theorem stepTask_told (told : p.cancelled = true) : (p.stepTask task).1.failure = p.failure := by
  unfold stepTask
  split
  · rfl
  · cases task <;> rfl

theorem stepTask_ended (ended : p.hasEnded task = true) : (p.stepTask task).1 = p := by
  unfold stepTask
  simp only [ended, if_true]

structure SameTasks (p next : Polling) : Prop where
  agent : next.agent = p.agent
  scheduler : next.scheduler = p.scheduler
  readingsReporter : next.readingsReporterEnded = p.readingsReporterEnded
  controlsReporter : next.controlsReporterEnded = p.controlsReporterEnded
  failure : next.failure = p.failure

theorem SameTasks.failed (same : p.SameTasks next) (task : Task) :
    next.failed? task = p.failed? task := by
  cases task <;> simp only [failed?, same.agent, same.scheduler]

theorem SameTasks.hasEnded (same : p.SameTasks next) (task : Task) :
    next.hasEnded task = p.hasEnded task := by
  cases task <;> simp only [Polling.hasEnded, same.agent, same.scheduler, same.readingsReporter,
    same.controlsReporter]

structure Tended (p : Polling) (interrupted : Bool) : Prop where
  interruption : p.interrupted = interrupted
  known : ∀ task f, p.failed? task = some f → p.failure.isSome = true
  alerted : p.supervisor = .alerted → p.failure.isSome = true
  told : p.supervisor = .draining ∨ p.supervisor = .done → p.cancelled = true
  reporter : p.readingsReporterEnded = true → p.cancelled = true
  done : p.supervisor = .done → ∀ task, p.hasEnded task = true

variable {interrupted : Bool}

theorem tended_make (line : Line) (settings : Agent.Settings) (devices : List (Int × Producer))
    (interval : Number) (text : String) :
    (make line (.make settings) (.make devices interval text)).Tended false where
  interruption := rfl
  known task f failed := by cases task <;> cases failed
  alerted alerted := by cases alerted
  told told := by rcases told with told | told <;> cases told
  reporter ended := by cases ended
  done done := by cases done

theorem Tended.stepTask (tended : p.Tended interrupted) (task : Task) :
    (p.stepTask task).1.Tended interrupted := by
  have acts := stepTask_acts (tended.known task)
  have kept : p.failure.isSome = true → (p.stepTask task).1.failure.isSome = true := by
    rw [acts.failure, Option.isSome_or]
    exact fun failed => by rw [failed, Bool.true_or]
  constructor
  case interruption => exact acts.interrupted.trans tended.interruption
  case known =>
    intro other f failed
    by_cases same : other = task
    · rw [same] at failed
      rw [acts.failure, failed, Option.isSome_or, Option.isSome_some, Bool.or_true]
    · exact kept (tended.known other f ((acts.others other same).symm.trans failed))
  case alerted => exact fun alerted => kept (tended.alerted (acts.supervisor ▸ alerted))
  case told =>
    rw [acts.supervisor, acts.cancelled]
    exact tended.told
  case reporter =>
    rw [acts.cancelled]
    exact fun ended => (acts.reporter ended).elim tended.reporter id
  case done =>
    rw [acts.supervisor]
    exact fun done other => stepTask_stays (tended.done done other)

/-- Nothing but the supervisor, who is told, and the interruption may change besides the line. -/
theorem Tended.retold (tended : p.Tended interrupted) (same : p.SameTasks next)
    (alerted : next.supervisor = .alerted → p.failure.isSome = true)
    (told : next.supervisor = .draining ∨ next.supervisor = .done → next.cancelled = true)
    (still : p.cancelled = true → next.cancelled = true)
    (done : next.supervisor = .done → ∀ task, p.hasEnded task = true) :
    next.Tended next.interrupted where
  interruption := rfl
  known task f failed := same.failure ▸ tended.known task f (same.failed task ▸ failed)
  alerted := same.failure ▸ alerted
  told := told
  reporter ended := still (tended.reporter (same.readingsReporter ▸ ended))
  done ends task := (same.hasEnded task).trans (done ends task)

theorem Tended.withLink (tended : p.Tended interrupted) (link : Link) :
    Tended { p with line := { p.line with link := link } } interrupted :=
  tended.interruption ▸ tended.retold ⟨rfl, rfl, rfl, rfl, rfl⟩ tended.alerted tended.told id
    tended.done

theorem Tended.halt (tended : p.Tended interrupted) : p.halt.Tended true :=
  tended.retold ⟨rfl, rfl, rfl, rfl, rfl⟩ (by simp [Polling.halt]) (fun _ => rfl) (fun _ => rfl)
    (by simp [Polling.halt])

theorem Tended.interrupt (tended : p.Tended interrupted) :
    Tended { p with interrupted := true } true :=
  tended.retold ⟨rfl, rfl, rfl, rfl, rfl⟩ tended.alerted tended.told id tended.done

theorem Tended.dropAgent (tended : p.Tended interrupted) : p.dropAgent.Tended interrupted where
  interruption := tended.interruption
  known task f failed := by
    cases task with
    | readingsReporter => cases failed
    | controlsReporter => cases failed
    | scheduler => exact tended.known .scheduler f failed
    | agent => cases failed
  alerted := tended.alerted
  told := tended.told
  reporter := tended.reporter
  done done task := by
    cases task with
    | readingsReporter => exact tended.done done .readingsReporter
    | controlsReporter => exact tended.done done .controlsReporter
    | scheduler => exact tended.done done .scheduler
    | agent => rfl

theorem allEnded_iff : p.allEnded = true ↔ ∀ task, p.hasEnded task = true := by
  rw [allEnded, List.all_eq_true]
  exact ⟨fun ended task => ended task (by cases task <;> simp [allTasks]),
    fun ended task _ => ended task⟩

/-- All that the supervisor does. -/
theorem stepSupervisor_cases (p : Polling) :
    p.stepSupervisor.1 = p ∨
      p.stepSupervisor.1 = { p with supervisor := .draining, cancelled := true } ∧
        (p.interrupted = true ∨ p.supervisor = .alerted) ∨
      p.stepSupervisor.1 = { p with supervisor := .alerted } ∧ p.failure.isSome = true ∨
      p.stepSupervisor.1 = { p with supervisor := .done } ∧ p.allEnded = true := by
  unfold stepSupervisor
  cases supervisor : p.supervisor with
  | watching =>
    simp only
    split
    · rename_i interrupted
      exact .inr (.inl ⟨rfl, .inl interrupted⟩)
    · split
      · rename_i failed
        exact .inr (.inr (.inl ⟨rfl, failed⟩))
      · split
        · rename_i ended
          exact .inr (.inr (.inr ⟨rfl, ended⟩))
        · exact .inl rfl
  | alerted => exact .inr (.inl ⟨rfl, .inr rfl⟩)
  | draining =>
    simp only
    split
    · rename_i ended
      exact .inr (.inr (.inr ⟨rfl, ended⟩))
    · exact .inl rfl
  | done => exact .inl rfl

theorem stepSupervisor_told (told : p.cancelled = true) : p.stepSupervisor.1.cancelled = true := by
  rcases p.stepSupervisor_cases with same | ⟨same, _⟩ | ⟨same, _⟩ | ⟨same, _⟩
  · rw [same]
    exact told
  · rw [same]
  · rw [same]
    exact told
  · rw [same]
    exact told

theorem stepSupervisor_interrupted (p : Polling) :
    p.stepSupervisor.1.interrupted = p.interrupted := by
  rcases p.stepSupervisor_cases with same | ⟨same, _⟩ | ⟨same, _⟩ | ⟨same, _⟩ <;> rw [same]

theorem Tended.stepSupervisor (tended : p.Tended interrupted) :
    p.stepSupervisor.1.Tended interrupted := by
  rw [← tended.interruption, ← p.stepSupervisor_interrupted]
  rcases p.stepSupervisor_cases with same | ⟨tells, _⟩ | ⟨alerts, failed⟩ | ⟨ends, ended⟩
  · rw [same, tended.interruption]
    exact tended
  · rw [tells]
    exact tended.retold ⟨rfl, rfl, rfl, rfl, rfl⟩ (by simp) (fun _ => rfl) (fun _ => rfl) (by simp)
  · rw [alerts]
    exact tended.retold ⟨rfl, rfl, rfl, rfl, rfl⟩ (fun _ => failed) (by simp) id (by simp)
  · have ended := allEnded_iff.mp ended
    rw [ends]
    exact tended.retold ⟨rfl, rfl, rfl, rfl, rfl⟩ (by simp)
      (fun _ => tended.reporter (ended .readingsReporter)) id fun _ => ended

/-- When the supervisor is done, all tasks were told to end and have ended. -/
theorem Tended.finished (tended : p.Tended interrupted) (isDone : p.isDone = true) :
    p.cancelled = true ∧ ∀ task, p.hasEnded task = true := by
  have done : p.supervisor = .done := by simpa [Polling.isDone] using isDone
  exact ⟨tended.told (.inr done), tended.done done⟩

end MeterPolling.Polling
