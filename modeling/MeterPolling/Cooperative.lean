import MeterPolling.Number
/-!
Cooperative tasks on a virtual clock. A task runs until it pauses; tasks that are ready run in the
order in which they became so; a paused task becomes ready when what it waits for has come about,
or at its deadline. The clock stands still while any task is ready and otherwise moves to the
earliest deadline.
-/
namespace MeterPolling

/-- What a task does after one of its steps. -/
inductive Pause where
  | continues
  /-- Lets the tasks run that are ready. -/
  | yields
  | sleeps (delay : Binary64)
  /-- Waits for something that is visible in the shared state. -/
  | waits
  | ends
deriving DecidableEq

/-- A pause of the given length. Without a positive length it only lets others run; an integer past
the largest binary64 number is no length. -/
def Pause.ofDelay? (delay : Number) : Option Pause :=
  if Number.less 0 delay then delay.toBinary64?.map .sleeps else some .yields

/-- Tasks over a shared state. -/
structure Tasks (τ σ : Type) where
  step : τ → σ → σ × Pause
  /-- Whether a paused task has what it waits for. -/
  awake : τ → σ → Bool
  now : σ → Binary64
  setNow : Binary64 → σ → σ
  /-- Whether nothing more is of interest. -/
  finished : σ → Bool

structure Paused (τ : Type) where
  task : τ
  deadline : Option Binary64

structure Loop (τ σ : Type) where
  shared : σ
  running : Option τ
  ready : List τ
  paused : List (Paused τ)

namespace Loop

variable {τ σ : Type}

/-- All tasks are ready, in the order given. -/
def start (shared : σ) (tasks : List τ) : Loop τ σ := ⟨shared, none, tasks, []⟩

/-- Moves to the ready tasks those that have what they wait for. -/
def wake (sys : Tasks τ σ) (loop : Loop τ σ) : Loop τ σ :=
  let (woken, paused) := loop.paused.partition fun p => sys.awake p.task loop.shared
  { loop with ready := loop.ready ++ woken.map (·.task), paused := paused }

def runTask (sys : Tasks τ σ) (task : τ) (loop : Loop τ σ) : Loop τ σ :=
  let (shared, pause) := sys.step task loop.shared
  let loop := { loop with shared := shared, running := none }
  wake sys <|
    match pause with
    | .continues => { loop with running := some task }
    | .yields => { loop with ready := loop.ready ++ [task] }
    | .sleeps delay =>
      let deadline := sys.now shared + delay
      { loop with paused := loop.paused ++ [⟨task, some deadline⟩] }
    | .waits => { loop with paused := loop.paused ++ [⟨task, none⟩] }
    | .ends => loop

/-- The earlier one of two deadlines; the first one of two equal ones. -/
def earlier (deadline other : Option Binary64) : Option Binary64 :=
  match deadline, other with
  | none, d => d
  | some b, some d => if d.less b then some d else some b
  | some b, none => some b

/-- The earliest deadline of a paused task. -/
def earliest? (paused : List (Paused τ)) : Option Binary64 :=
  paused.foldl (fun best p => earlier best p.deadline) none

/-- Moves the clock to a deadline and makes ready the tasks that have it. -/
def moveClock (sys : Tasks τ σ) (deadline : Binary64) (loop : Loop τ σ) : Loop τ σ :=
  let (due, paused) := loop.paused.partition fun p => p.deadline.any fun d => !deadline.less d
  { loop with
    shared := sys.setNow deadline loop.shared
    ready := due.map (·.task)
    paused := paused }

/-- The next state, unless everything has finished, nothing can happen any more, or nothing happens
before the alarm. -/
def step? (sys : Tasks τ σ) (alarm : Option Binary64) (loop : Loop τ σ) : Option (Loop τ σ) :=
  if sys.finished loop.shared then none
  else
    match loop.running, loop.ready with
    | some task, _ => some (runTask sys task loop)
    | none, task :: rest => some { loop with running := some task, ready := rest }
    | none, [] =>
      match earliest? loop.paused with
      | none => none
      | some deadline =>
        if alarm.any fun a => !deadline.less a then none else some (moveClock sys deadline loop)

def iterate (sys : Tasks τ σ) (alarm : Option Binary64) : Nat → Loop τ σ → Loop τ σ
  | 0, loop => loop
  | n + 1, loop =>
    match step? sys alarm loop with
    | none => loop
    | some next => iterate sys alarm n next

/-- More steps than any activity takes that the clock ever ends. -/
def stepLimit : Nat := 1000000000000

/-- Runs until nothing more happens, or nothing before the alarm. -/
def run (sys : Tasks τ σ) (alarm : Option Binary64) (loop : Loop τ σ) : Loop τ σ :=
  iterate sys alarm stepLimit loop

end Loop

end MeterPolling
