import MeterPolling.Agent
import MeterPolling.Reader
/-!
An agent by itself: a feeder puts requests with pauses between them, and two readers take readings
and controls, each at its own pace or never. The bench is done once the agent has ended; at the time
limit the agent is cancelled.
-/
namespace MeterPolling.Agent.Bench

/-- What the feeder does next. -/
inductive Feed where
  | put (request : Option Request)
  | pause (delay : Number)

structure Setup where
  settings : Settings
  feed : List Feed
  /-- The bounds of the channels for readings and for controls; zero stands for no bound. -/
  readingsBound : Nat
  controlsBound : Nat
  /-- The paces of the readers. -/
  readingsPace : Option Number
  controlsPace : Option Number

structure State where
  line : Line
  agent : Agent
  feed : List Feed
  readingsReader : Reader
  controlsReader : Reader
  finished : Bool

inductive Task where
  | feeder
  | agent
  | readingsReader
  | controlsReader
  /-- Waits for the agent to end. -/
  | observer
deriving DecidableEq

/-- Puts what comes before the first pause. -/
def putLeading (line : Line) : List Feed → Line × List Feed
  | .put request :: rest => putLeading { line with requests := line.requests.put request } rest
  | rest => (line, rest)

def step (setup : Setup) (task : Task) (s : State) : State × Pause :=
  match task with
  | .feeder =>
    match putLeading s.line s.feed with
    | (line, .pause delay :: rest) =>
      ({ s with line := line, feed := rest }, (Pause.ofDelay? delay).getD .ends)
    | (line, rest) => ({ s with line := line, feed := rest }, .ends)
  | .agent =>
    let (agent, line, pause) := s.agent.step s.line
    ({ s with agent := agent, line := line }, pause)
  | .readingsReader =>
    let (reader, channel, pause) := s.readingsReader.step setup.readingsPace s.line.readings
    ({ s with readingsReader := reader, line := { s.line with readings := channel } }, pause)
  | .controlsReader =>
    let (reader, channel, pause) := s.controlsReader.step setup.controlsPace s.line.controls
    ({ s with controlsReader := reader, line := { s.line with controls := channel } }, pause)
  | .observer =>
    if s.agent.outcome?.isSome then ({ s with finished := true }, .ends) else (s, .waits)

def tasks (setup : Setup) : Tasks Task State where
  step := step setup
  awake task s :=
    match task with
    | .feeder => false
    | .agent => s.agent.awake s.line
    | .readingsReader => s.readingsReader.awake s.line.readings
    | .controlsReader => s.controlsReader.awake s.line.controls
    | .observer => s.agent.outcome?.isSome
  now s := s.line.now
  setNow now s := { s with line := s.line.setNow now }
  finished := State.finished

/-- What is there before any task has run. -/
def initial (setup : Setup) (link : Link) : State :=
  let (line, feed) := putLeading (.make link 0 setup.readingsBound setup.controlsBound) setup.feed
  ⟨line, .make setup.settings, feed, .starting, .starting, false⟩

/-- Runs the agent on an open link until it ends, or is cancelled once `limit` has passed. -/
def run (setup : Setup) (limit : Number) (link : Link) : State :=
  let alarm := Link.after link.now limit
  let order := [.feeder, .readingsReader, .controlsReader, .agent, .observer]
  let loop := (Loop.start (initial setup link) order).run (tasks setup) (some alarm)
  let s := loop.shared
  if s.finished then s
  else
    let (agent, line) := s.agent.cancel (s.line.setNow alarm)
    { s with agent := agent, line := line, finished := true }

end MeterPolling.Agent.Bench
