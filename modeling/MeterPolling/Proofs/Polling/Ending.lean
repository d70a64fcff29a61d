import MeterPolling.Polling.Alone
/-!
How the tasks of polling end. A task that leaves the loop has ended, and it stays so whatever the
others do; the supervisor ends only when it is done.
-/
namespace MeterPolling

theorem Pause.ofDelay_goes_on (delay : Number) : ofDelay? delay ≠ some .ends := by
  unfold ofDelay?
  split
  · cases delay.toBinary64? <;> simp
  · simp

theorem Exchange.pause_goes_on (x : Exchange) : x.pause? ≠ some .ends := by
  unfold pause?
  split
  · simp
  · exact Pause.ofDelay_goes_on _

namespace Agent

/-- Whoever leaves the loop by a step has an outcome. -/
def Proper (result : Agent × Line × Pause) : Prop :=
  result.2.2 = .ends → result.1.outcome?.isSome = true

variable {a : Agent} {line : Line}

theorem fail_proper (f : Failure) : Proper (a.fail line f) := fun _ => rfl

theorem pauseFor_proper (delay : Number) (stage : Stage) : Proper (a.pauseFor delay stage line) := by
  unfold pauseFor
  split
  · rename_i pause length
    rintro rfl
    exact absurd length (Pause.ofDelay_goes_on delay)
  · exact fail_proper _

theorem takeRequest_proper (a : Agent) (line : Line) : Proper (a.takeRequest line) := by
  unfold takeRequest
  split
  · exact fun ends => by cases ends
  · exact fun _ => rfl
  · simp only
    split
    · exact fun ends => by cases ends
    · exact pauseFor_proper _ _

theorem ask_proper (a : Agent) (line : Line) (r : Request) (attempt : Nat) :
    Proper (a.ask line r attempt) := by
  unfold ask
  split
  · exact fun ends => by cases ends
  · split
    · exact fail_proper _
    · rename_i exchange begun
      simp only
      split
      · rename_i pause length
        rintro rfl
        exact absurd length exchange.pause_goes_on
      · exact fail_proper _

theorem settle_proper (a : Agent) (line : Line) (r : Request) (attempt : Nat)
    (exchange : Exchange) : Proper (a.settle line r attempt exchange) := by
  unfold settle
  split
  · simp only
    split
    · exact fun ends => by cases ends
    · exact fail_proper _
  · exact pauseFor_proper _ _
  · exact fail_proper _

theorem step_proper (a : Agent) (line : Line) : Proper (a.step line) := by
  unfold step
  split
  case h_1 => exact takeRequest_proper a line
  case h_3 => exact ask_proper a line _ _
  case h_4 => exact settle_proper a line _ _ _
  case h_6 => split <;> exact fun ends => by cases ends
  case h_7 => split <;> exact fun ends => by cases ends
  case h_8 stage => exact fun _ => by simp [outcome?, stage]
  all_goals exact fun ends => by cases ends

end Agent

theorem Scheduler.step_proper (s : Scheduler) (line : Line) :
    (s.step line).2.2 = .ends → (s.step line).1.hasEnded = true := by
  unfold step rest
  split
  case h_3 => split <;> exact fun ends => by cases ends
  case h_4 =>
    split
    · simp only
      split
      · exact fun _ => rfl
      · intro ends
        simp only at ends
        split at ends <;> cases ends
    · exact fun ends => by cases ends
  case h_6 stage => exact fun _ => by simp [hasEnded, stage]
  case h_7 stage => exact fun _ => by simp [hasEnded, stage]
  all_goals exact fun ends => by cases ends

namespace Polling

variable {p : Polling}

theorem endTask_ended (p : Polling) (task : Task) : (p.endTask task).hasEnded task = true := by
  cases task with
  | readingsReporter => rfl
  | controlsReporter => rfl
  | scheduler =>
    unfold endTask Scheduler.cancel
    simp only [hasEnded]
    split
    · rename_i failed
      simp [Scheduler.hasEnded, failed]
    · rfl
  | agent =>
    unfold endTask Agent.cancel
    simp only [hasEnded]
    split
    · rename_i ended
      simp [Agent.outcome?, ended]
    · rfl
    · rfl

theorem stepTask_ends {task : Task} (ends : (p.stepTask task).2 = .ends) :
    (p.stepTask task).1.hasEnded task = true := by
  by_cases ended : p.hasEnded task = true
  · simp only [stepTask, ended, if_true]
  · by_cases told : p.cancelled = true
    · simp only [stepTask, ended, told, if_true, Bool.false_eq_true, if_false]
      exact p.endTask_ended task
    · simp only [stepTask, ended, told, Bool.false_eq_true, if_false] at ends ⊢
      cases task with
      | readingsReporter =>
        simp only [reportReading] at ends
        split at ends <;> cases ends
      | controlsReporter =>
        simp only [reportControl] at ends
        split at ends <;> cases ends
      | scheduler => exact p.scheduler.step_proper p.line ends
      | agent => exact p.agent.step_proper p.line ends

theorem stepTask_stays {task other : Task} (ended : p.hasEnded other = true) :
    (p.stepTask task).1.hasEnded other = true := by
  unfold stepTask
  split
  · exact ended
  · -- a task that is still active is not the one that has ended
    rename_i active
    have different : other ≠ task := by
      rintro rfl
      exact active ended
    split
    · cases task <;> cases other <;> first | exact absurd rfl different | exact ended
    · cases task with
      | readingsReporter =>
        simp only [reportReading]
        split <;> cases other <;> first | exact absurd rfl different | exact ended
      | controlsReporter =>
        simp only [reportControl]
        split <;> cases other <;> first | exact absurd rfl different | exact ended
      | scheduler => cases other <;> first | exact absurd rfl different | exact ended
      | agent => cases other <;> first | exact absurd rfl different | exact ended

theorem stepTask_supervisor (p : Polling) (task : Task) :
    (p.stepTask task).1.supervisor = p.supervisor := by
  unfold stepTask
  split
  · rfl
  · split
    · cases task <;> rfl
    · cases task with
      | readingsReporter =>
        simp only [reportReading]
        split <;> rfl
      | controlsReporter =>
        simp only [reportControl]
        split <;> rfl
      | scheduler => rfl
      | agent => rfl

theorem stepSupervisor_hasEnded (p : Polling) (task : Task) :
    p.stepSupervisor.1.hasEnded task = p.hasEnded task := by
  unfold stepSupervisor
  cases p.supervisor with
  | watching =>
    simp only
    split
    · cases task <;> rfl
    · split
      · cases task <;> rfl
      · split <;> cases task <;> rfl
  | alerted => cases task <;> rfl
  | draining =>
    simp only
    split <;> cases task <;> rfl
  | done => rfl

theorem stepSupervisor_ends (ends : p.stepSupervisor.2 = .ends) :
    p.stepSupervisor.1.supervisor = .done := by
  unfold stepSupervisor at ends ⊢
  cases supervisor : p.supervisor with
  | watching =>
    simp only [supervisor] at ends ⊢
    by_cases interrupted : p.interrupted = true
    · simp only [interrupted, if_true] at ends
      cases ends
    · by_cases failed : p.failure.isSome = true
      · simp only [interrupted, failed, if_true, Bool.false_eq_true, if_false] at ends
        cases ends
      · by_cases all_ended : p.allEnded = true
        · simp only [interrupted, failed, all_ended, if_true, Bool.false_eq_true, if_false]
        · simp only [interrupted, failed, all_ended, Bool.false_eq_true, if_false] at ends
          cases ends
  | alerted =>
    simp only [supervisor] at ends
    cases ends
  | draining =>
    simp only [supervisor] at ends ⊢
    by_cases all_ended : p.allEnded = true
    · simp only [all_ended, if_true]
    · simp only [all_ended, Bool.false_eq_true, if_false] at ends
      cases ends
  | done => simp only [supervisor]

/-! ## As tasks of a loop -/

/-- What tells that a task has ended, or the supervisor. -/
def Gone : Option Task → Polling → Prop
  | none, p => p.supervisor = .done
  | some task, p => p.hasEnded task = true

theorem supervised_ends (task : Option Task) (p : Polling)
    (ends : (supervised.step task p).2 = .ends) : Gone task (supervised.step task p).1 := by
  cases task with
  | none => exact stepSupervisor_ends ends
  | some task => exact stepTask_ends ends

theorem supervised_stays (task other : Option Task) (p : Polling) (gone : Gone other p) :
    Gone other (supervised.step task p).1 := by
  cases task with
  | none =>
    cases other with
    | none =>
      have done : p.supervisor = .done := gone
      change p.stepSupervisor.1.supervisor = .done
      simp only [stepSupervisor, done]
    | some other => exact (p.stepSupervisor_hasEnded other).trans gone
  | some task =>
    cases other with
    | none => exact (p.stepTask_supervisor task).trans gone
    | some other => exact stepTask_stays gone

theorem supervised_clock (now : Binary64) (task : Option Task) (p : Polling) (gone : Gone task p) :
    Gone task (supervised.setNow now p) := by
  cases task with
  | none => exact gone
  | some task => cases task <;> exact gone

/-- What a task waits for has nothing to do with the time. -/
theorem supervised_timeless (task : Option Task) (now : Binary64) (p : Polling) :
    supervised.awake task (supervised.setNow now p) = supervised.awake task p := by
  cases task with
  | none => rfl
  | some task => cases task <;> rfl

end Polling

end MeterPolling
