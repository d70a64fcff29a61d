import MeterPolling.Proofs.Agent.Moves
/-!
An agent comes to rest. When the outputs are read and nothing more is put, each of its steps takes
away of the effort that is left, until it has ended or has nothing more to take. The effort of a
request is what its attempts may cost; that of a queued one is the highest there is.
-/
namespace MeterPolling

def Line.drained (line : Line) : Line :=
  { line with
    readings := { line.readings with items := [] }
    controls := { line.controls with items := [] } }

namespace Agent

/-- How many steps there are at most to the end of the request under way. -/
def Stage.effort (limit : Nat) : Stage → Nat
  | .ended _ | .idle => 0
  | .reporting _ => 1
  | .delivering _ => 2
  | .retrying _ number => 3 * (limit + 1 - number) + 2
  | .waiting _ number _ => 3 * (limit + 1 - number) + 3
  | .asking _ number => 3 * (limit + 1 - number) + 4
  | .settling _ => 3 * limit + 5

/-- How many steps there are at most to the end of all requests. -/
def effort (a : Agent) (line : Line) : Nat :=
  a.stage.effort a.settings.attempts + (3 * a.settings.attempts + 6) * line.requests.items.length

/-- Nothing is left to do but to wait for more. -/
def Rests (a : Agent) (line : Line) : Prop :=
  a.stage = .idle ∧ line.requests.items = [] ∨ ∃ outcome, a.stage = .ended outcome

variable {settings : Settings} {a a' : Agent} {line₀ line line' : Line}
  {puts : List (Option Request)} {delay : Number} {stage : Stage}
  {result : Agent × Line × Pause}

/-- Where the queue stays as it is, the effort is what is left of the request under way. -/
theorem effort_less (same : a'.settings = a.settings)
    (items : line'.requests.items = line.requests.items)
    (less : a'.stage.effort a.settings.attempts < a.stage.effort a.settings.attempts) :
    a'.effort line' < a.effort line := by
  unfold effort
  rw [same, items]
  exact Nat.add_lt_add_right less _

/-- Taking an item is worth more than anything that comes of it. -/
theorem effort_takes {item : Option Request} {rest : List (Option Request)}
    (idle : a.stage = .idle) (pending : line.requests.items = item :: rest)
    (same : a'.settings = a.settings) (items : line'.requests.items = rest)
    (most : a'.stage.effort a.settings.attempts ≤ 3 * a.settings.attempts + 5) :
    a'.effort line' < a.effort line := by
  have none : Stage.idle.effort a.settings.attempts = 0 := rfl
  unfold effort
  rw [same, items, idle, pending, none, List.length_cons, Nat.mul_succ]
  omega

/-- A pause leads to its stage or to the end. -/
theorem Pausing.effort (pausing : Pausing a delay stage line result) :
    result.1.settings = a.settings ∧ result.2.1.requests.items = line.requests.items ∧
      ∀ limit, result.1.stage.effort limit ≤ stage.effort limit := by
  cases pausing with
  | pauses pause found => exact ⟨rfl, rfl, fun _ => Nat.le_refl _⟩
  | fails endless => exact ⟨rfl, rfl, fun _ => Nat.zero_le _⟩

theorem Taking.effort (taking : Taking a line result) (idle : a.stage = .idle)
    (pending : line.requests.items ≠ []) : result.1.effort result.2.1 < a.effort line := by
  cases taking with
  | waits empty => exact absurd empty pending
  | told rest items => exact effort_takes idle items rfl rfl (Nat.zero_le _)
  | same r rest items known =>
    refine effort_takes idle items rfl rfl ?_
    simp only [Stage.effort]
    omega
  | other r rest result items other pausing =>
    obtain ⟨same, left, most⟩ := pausing.effort
    exact effort_takes idle items same left (most _)

theorem Asking.effort {r : Request} {number : Nat} (asking : Asking a line r number result)
    (stage : a.stage = .asking r number) : result.1.effort result.2.1 < a.effort line := by
  cases asking <;>
  · refine effort_less rfl rfl ?_
    rw [stage]
    simp only [fail, Stage.effort]
    omega

theorem Settling.effort {r : Request} {number : Nat} {exchange : Exchange}
    (settling : Settling a line r number exchange result)
    (stage : a.stage = .waiting r number exchange) : result.1.effort result.2.1 < a.effort line := by
  cases settling with
  | retries next fault result reply warns pausing =>
    obtain ⟨same, items, most⟩ := pausing.effort
    refine effort_less same items (Nat.lt_of_le_of_lt (most _) ?_)
    rw [stage]
    simp only [Stage.effort]
    omega
  | _ =>
    refine effort_less rfl rfl ?_
    rw [stage]
    simp only [fail, Stage.effort]
    omega

/-- With room in the outputs, each step is one of those that are left. -/
theorem Moves.effort (moves : Moves a line result)
    (within : ∀ r number, a.stage = .retrying r number → number ≤ a.settings.attempts)
    (readings : line.readings.isFull = false) (controls : line.controls.isFull = false) :
    a.Rests line ∨ result.1.effort result.2.1 < a.effort line := by
  cases moves with
  | takes result idle taking =>
    by_cases pending : line.requests.items = []
    · exact .inl (.inl ⟨idle, pending⟩)
    · exact .inr (taking.effort idle pending)
  | asks r number result stage asking => exact .inr (asking.effort stage)
  | settles r number exchange result stage settling => exact .inr (settling.effort stage)
  | settled r stage =>
    refine .inr (effort_less rfl rfl ?_)
    rw [stage]
    simp only [Stage.effort]
    omega
  | retried r number stage =>
    have within := within r number stage
    refine .inr (effort_less rfl rfl ?_)
    rw [stage]
    simp only [Stage.effort]
    omega
  | holds reading stage full =>
    rw [readings] at full
    cases full
  | delivers reading stage free =>
    refine .inr (effort_less rfl rfl ?_)
    rw [stage]
    exact Nat.one_lt_two
  | withholds control stage full =>
    rw [controls] at full
    cases full
  | reports control stage free =>
    refine .inr (effort_less rfl rfl ?_)
    rw [stage]
    exact Nat.zero_lt_one
  | stays outcome stage => exact .inl (.inr ⟨outcome, stage⟩)

theorem Account.within {bus : Bus} {timeout : Number} {fed : List (Option Request)} {r : Request}
    {number : Nat} (account : Account bus timeout settings fed a line)
    (retrying : a.stage = .retrying r number) : number ≤ a.settings.attempts := by
  obtain ⟨rfl, _, taken, _, stands⟩ := account
  rw [retrying] at stands
  obtain ⟨cases, k, rfl, under⟩ := stands
  exact under.within

/-- Whatever became of it so far, an agent comes to rest once its readings and controls are taken. -/
theorem Run.comes_to_rest (unused : line₀.link.Unused) (run : Run (make settings) line₀ puts a line)
    (uncancelled : a.stage ≠ .ended .cancelled) :
    ∃ a' line', Run a line [] a' line' ∧ a'.Rests line' ∧ a'.stage ≠ .ended .cancelled := by
  induction left : a.effort line using Nat.strongRecOn generalizing a line with
  | ind n ih =>
    subst left
    -- before each step the readers take all there is, so that the agent never waits for room
    have drains : Run a line [] a line.drained := .aside .start ⟨rfl, rfl, rfl, rfl, rfl⟩
    have account := (run.trans drains).account unused
    have moves := step_moves (a := a) account.serves
    have nearer := moves.effort (fun _ _ => account.within) (Channel.isFull_empty rfl)
      (Channel.isFull_empty rfl)
    rcases nearer with rests | less
    · exact ⟨a, line.drained, drains, rests, uncancelled⟩
    · have steps : Run a line [] _ _ := drains.step
      have later := run.trans steps
      rw [List.append_nil] at later
      obtain ⟨a', line', on, rests, still⟩ :=
        ih _ less later (moves.cancelled_not uncancelled) rfl
      exact ⟨a', line', steps.trans on, rests, still⟩

end Agent

end MeterPolling
