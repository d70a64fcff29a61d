import MeterPolling.Polling
/-!
Polling by itself, for a limited time.
-/
namespace MeterPolling.Polling

/-- Polling and the supervisor over it, as tasks. -/
def supervised : Tasks (Option Task) Polling where
  step task p :=
    match task with
    | none => p.stepSupervisor
    | some task => p.stepTask task
  awake task p :=
    match task with
    | none => p.supervisorAwake
    | some task => p.taskAwake task
  now p := p.line.now
  setNow now p := { p with line := p.line.setNow now }
  finished := isDone

/-- Runs polling until it fails, or is interrupted once `limit` has passed. -/
def run (p : Polling) (limit : Number) : Polling :=
  let alarm := Link.after p.line.now limit
  let loop := (Loop.start p (none :: allTasks.map some)).run supervised (some alarm)
  if loop.shared.isDone then loop.shared
  else
    let shared := { loop.shared with line := loop.shared.line.setNow alarm, interrupted := true }
    (({ loop with shared := shared }.wake supervised).run supervised none).shared

end MeterPolling.Polling
