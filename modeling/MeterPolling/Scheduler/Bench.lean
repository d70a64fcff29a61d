import MeterPolling.Scheduler
/-!
A scheduler by itself, with one worker that takes the requests, is busy for a while with each of
them, and acknowledges it.
-/
namespace MeterPolling.Scheduler.Bench

structure Worker where
  /-- How long it is busy with its first request, its second, and so on, starting again at the
  end. A time that is too long ends it. -/
  efforts : List Number
  /-- How many requests it has taken. -/
  taken : Nat
  /-- The most requests that were left in the channel when it took one. -/
  mostLeft : Nat
  busy : Bool

structure State where
  line : Line
  scheduler : Scheduler
  worker : Worker

inductive Task where
  | scheduler
  | worker
deriving DecidableEq

/-- How long the worker is busy with the request of this number. -/
def Worker.effort (w : Worker) (n : Nat) : Number := (w.efforts[n % w.efforts.length]?).getD 0

def stepWorker (s : State) : State × Pause :=
  let w := s.worker
  if w.busy then
    ({ s with line := s.line.acknowledge, worker := { w with busy := false } }, .continues)
  else
    match s.line.requests.take? with
    | none => (s, .waits)
    | some (_, channel) =>
      ({ s with
          line := { s.line with requests := channel }
          worker :=
            { w with
              taken := w.taken + 1
              mostLeft := max w.mostLeft channel.items.length
              busy := true } },
        (Pause.ofDelay? (w.effort w.taken)).getD .ends)

def step (task : Task) (s : State) : State × Pause :=
  match task with
  | .scheduler =>
    let (scheduler, line, pause) := s.scheduler.step s.line
    ({ s with scheduler := scheduler, line := line }, pause)
  | .worker => stepWorker s

def tasks : Tasks Task State where
  step := step
  awake task s :=
    match task with
    | .scheduler => s.scheduler.awake s.line
    | .worker => !s.worker.busy && !s.line.requests.items.isEmpty
  now s := s.line.now
  setNow now s := { s with line := s.line.setNow now }
  finished s := s.scheduler.hasEnded

/-- Runs the scheduler until it fails, or is cancelled once `limit` has passed. -/
def run (scheduler : Scheduler) (bound : Nat) (efforts : List Number) (limit : Number)
    (link : Link) : State :=
  let alarm := Link.after link.now limit
  let initial : State := ⟨.make link bound 0 0, scheduler, ⟨efforts, 0, 0, false⟩⟩
  let s := ((Loop.start initial [.scheduler, .worker]).run tasks (some alarm)).shared
  if s.scheduler.hasEnded then s
  else { s with line := s.line.setNow alarm, scheduler := s.scheduler.cancel }

/-- Puts `times` rounds one after the other, with nobody taking them; tells how many requests each
of them queued. -/
def queueRounds (devices : List (Int × Producer)) (times : Nat) (line : Line) : List Nat × Line :=
  let requests := round devices
  (List.replicate times requests.length,
    (List.replicate times requests).flatten.foldl (fun line r => line.queue r) line)

end MeterPolling.Scheduler.Bench
