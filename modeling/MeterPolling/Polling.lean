import MeterPolling.Agent
import MeterPolling.Scheduler
/-!
Polling: the scheduler feeds the agent, and two reporters log what the agent delivers. A supervisor
watches over the four tasks. When one of them fails, or when polling is interrupted, it cancels all
of them, waits until all have ended, and ends with the failure that came first.
-/
namespace MeterPolling

namespace Polling

inductive Task where
  | readingsReporter
  | controlsReporter
  | scheduler
  | agent
deriving DecidableEq

def allTasks : List Task := [.readingsReporter, .controlsReporter, .scheduler, .agent]

/-- The supervisor, by what it waits for. -/
inductive Supervisor where
  /-- For any task to fail. -/
  | watching
  /-- A failure was noticed; the tasks that are ready go first. -/
  | alerted
  /-- For all tasks to end. -/
  | draining
  | done
deriving DecidableEq

end Polling

structure Polling where
  line : Line
  agent : Agent
  scheduler : Scheduler
  /-- The reporters that have ended. -/
  readingsReporterEnded : Bool
  controlsReporterEnded : Bool
  supervisor : Polling.Supervisor
  /-- Whether all tasks were told to end. -/
  cancelled : Bool
  /-- Whether polling is interrupted from outside. -/
  interrupted : Bool
  /-- The failure that came first. -/
  failure : Option Failure

namespace Polling

def make (line : Line) (agent : Agent) (scheduler : Scheduler) : Polling :=
  ⟨line, agent, scheduler, false, false, .watching, false, false, none⟩

def hasEnded (p : Polling) : Task → Bool
  | .readingsReporter => p.readingsReporterEnded
  | .controlsReporter => p.controlsReporterEnded
  | .scheduler => p.scheduler.hasEnded
  | .agent => p.agent.outcome?.isSome

/-- Keeps the failure of a task unless another came before it. -/
def keepFailure (p : Polling) (f : Option Failure) : Polling := { p with failure := p.failure.or f }

/-- Ends a task that was told to. -/
def endTask (p : Polling) : Task → Polling
  | .readingsReporter => { p with readingsReporterEnded := true }
  | .controlsReporter => { p with controlsReporterEnded := true }
  | .scheduler => { p with scheduler := p.scheduler.cancel }
  | .agent =>
    let (agent, line) := p.agent.cancel p.line
    { p with agent := agent, line := line }

/-- Logs the next reading. -/
def reportReading (p : Polling) : Polling × Pause :=
  match p.line.readings.take? with
  | none => (p, .waits)
  | some (reading, rest) =>
    ({ p with line := { p.line with readings := rest }.note (.readingTaken reading) }, .continues)

/-- Logs the next control, with the counters of that moment. -/
def reportControl (p : Polling) : Polling × Pause :=
  match p.line.controls.take? with
  | none => (p, .waits)
  | some (control, rest) =>
    let notice := .controlTaken control p.line.link.counters .zero
    ({ p with line := { p.line with controls := rest }.note notice }, .continues)

def stepTask (p : Polling) (task : Task) : Polling × Pause :=
  if p.hasEnded task then (p, .ends)
  else if p.cancelled then (p.endTask task, .ends)
  else
    match task with
    | .readingsReporter => p.reportReading
    | .controlsReporter => p.reportControl
    | .scheduler =>
      let (scheduler, line, pause) := p.scheduler.step p.line
      let failure :=
        match scheduler.stage with
        | .failed f => some f
        | _ => none
      ({ p with scheduler := scheduler, line := line }.keepFailure failure, pause)
    | .agent =>
      let (agent, line, pause) := p.agent.step p.line
      let failure :=
        match agent.stage with
        | .ended (.failed f) => some f
        | _ => none
      ({ p with agent := agent, line := line }.keepFailure failure, pause)

/-- Whether a paused task has what it waits for. -/
def taskAwake (p : Polling) (task : Task) : Bool :=
  p.cancelled ||
    match task with
    | .readingsReporter => !p.line.readings.items.isEmpty
    | .controlsReporter => !p.line.controls.items.isEmpty
    | .scheduler => p.scheduler.awake p.line
    | .agent => p.agent.awake p.line

def allEnded (p : Polling) : Bool := allTasks.all p.hasEnded

def stepSupervisor (p : Polling) : Polling × Pause :=
  match p.supervisor with
  | .watching =>
    if p.interrupted then ({ p with supervisor := .draining, cancelled := true }, .continues)
    else if p.failure.isSome then ({ p with supervisor := .alerted }, .yields)
    else if p.allEnded then ({ p with supervisor := .done }, .ends)
    else (p, .waits)
  | .alerted => ({ p with supervisor := .draining, cancelled := true }, .continues)
  | .draining => if p.allEnded then ({ p with supervisor := .done }, .ends) else (p, .waits)
  | .done => (p, .ends)

/-- Whether the paused supervisor has what it waits for. -/
def supervisorAwake (p : Polling) : Bool :=
  match p.supervisor with
  | .watching => p.interrupted || p.failure.isSome || p.allEnded
  | .draining => p.allEnded
  | _ => false

def isDone (p : Polling) : Bool := p.supervisor == .done

end Polling

end MeterPolling
