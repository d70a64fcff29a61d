import MeterPolling.Cooperative
import MeterPolling.Line
import MeterPolling.Producer
/-!
The scheduler. Each round queues one request for every register of every device; the next round
starts when all of them were acknowledged, and not before the interval since the start of the round
has passed.
-/
namespace MeterPolling

namespace Scheduler

inductive Stage where
  | starting
  | queueing (rest : List Request) (count : Nat) (started : Binary64)
  | joining (started : Binary64)
  | resting
  | failed (failure : Failure)
  | cancelled
deriving DecidableEq

end Scheduler

structure Scheduler where
  devices : List (Int × Producer)
  interval : Number
  /-- The interval as messages show it. -/
  intervalText : String
  stage : Scheduler.Stage

namespace Scheduler

def make (devices : List (Int × Producer)) (interval : Number) (intervalText : String) :
    Scheduler :=
  ⟨devices, interval, intervalText, .starting⟩

/-- The requests of one round. -/
def round (devices : List (Int × Producer)) : List Request :=
  devices.flatMap fun d => d.2.requests d.1

/-- Rests for what is left of the interval. An interval past the largest number fails. -/
def rest (s : Scheduler) (line : Line) (started : Binary64) : Scheduler × Line × Pause :=
  let elapsed := line.now - started
  let line :=
    if s.interval.less (.real elapsed) then line.note (.roundOverran elapsed s.intervalText)
    else line
  match s.interval.toBinary64? with
  | none => ({ s with stage := .failed .tooLarge }, line, .ends)
  | some interval =>
    let left := interval - elapsed
    ({ s with stage := .resting }, line, if Binary64.less .zero left then .sleeps left else .yields)

def step (s : Scheduler) (line : Line) : Scheduler × Line × Pause :=
  match s.stage with
  | .starting => ({ s with stage := .queueing (round s.devices) 0 line.now }, line, .continues)
  | .queueing [] count started =>
    ({ s with stage := .joining started }, line.note (.roundQueued count), .continues)
  | .queueing (request :: rest) count started =>
    if line.requests.isFull then (s, line, .waits)
    else ({ s with stage := .queueing rest (count + 1) started }, line.queue request, .continues)
  | .joining started =>
    if line.requests.unacknowledged = 0 then s.rest line started else (s, line, .waits)
  | .resting => ({ s with stage := .starting }, line, .continues)
  | .failed _ | .cancelled => (s, line, .ends)

/-- Whether a paused scheduler has what it waits for. -/
def awake (s : Scheduler) (line : Line) : Bool :=
  match s.stage with
  | .queueing .. => !line.requests.isFull
  | .joining _ => line.requests.unacknowledged == 0
  | _ => false

def cancel (s : Scheduler) : Scheduler :=
  match s.stage with
  | .failed _ => s
  | _ => { s with stage := .cancelled }

def hasEnded (s : Scheduler) : Bool :=
  match s.stage with
  | .failed _ | .cancelled => true
  | _ => false

end Scheduler

end MeterPolling
