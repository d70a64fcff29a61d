import Mathlib.Data.List.ReduceOption
import MeterPolling.Proofs.Agent.Observed
/-!
The device that an agent has in mind. Whenever it takes a request it knows the device of the request
it took before, and it lets the line settle for no other reason than that the two differ.
-/
namespace MeterPolling.Agent

def lastDevice (requests : List Request) : Option Int := requests.getLast?.map Request.device

/-- Which device an agent has in mind at a stage, after it took these requests. -/
def Stage.Recalls (requests : List Request) (previous : Option Int) : Stage → Prop
  | .idle | .delivering _ | .reporting _ => previous = lastDevice requests
  | .settling r => ∃ before, requests = before ++ [r] ∧ previous = lastDevice before ∧
      previous ≠ some r.device
  | .asking r number => 0 < number ∧ ∃ before, requests = before ++ [r] ∧ previous = some r.device
  | .waiting r _ _ | .retrying r _ => ∃ before, requests = before ++ [r] ∧
      previous = some r.device
  | .ended _ => True

theorem lastDevice_concat (before : List Request) (r : Request) :
    lastDevice (before ++ [r]) = some r.device := by
  rw [lastDevice, List.getLast?_concat, Option.map_some]

def Remembers (fed : List (Option Request)) (a : Agent) (line : Line) : Prop :=
  ∃ taken, fed = taken ++ line.requests.items ∧ a.stage.Recalls taken.reduceOption a.previous

variable {a₀ a : Agent} {line₀ line : Line} {puts fed taken : List (Option Request)}
  {log : List Attempt} {outputs : Outputs} {settings : Settings} {result : Agent × Line × Pause}

theorem Taking.remembers (taking : Taking a line result) (idle : a.stage = .idle)
    (remembers : Remembers fed a line) : Remembers fed result.1 result.2.1 := by
  obtain ⟨taken, split, recalls⟩ := remembers
  have first {r : Request} {rest : List (Option Request)}
      (items : line.requests.items = some r :: rest) :
      fed = (taken ++ [some r]) ++ rest ∧
        (taken ++ [some r]).reduceOption = taken.reduceOption ++ [r] := by
    constructor
    · rw [split, items, List.append_assoc]
      rfl
    · rw [List.reduceOption_append]
      rfl
  cases taking with
  | waits none => exact ⟨taken, split, recalls⟩
  | told rest items =>
    refine ⟨taken ++ [none], ?_, trivial⟩
    rw [split, items, List.append_assoc]
    rfl
  | same r rest items same =>
    obtain ⟨split, reduced⟩ := first items
    exact ⟨_, split, Nat.one_pos, _, reduced, same⟩
  | other r rest result items other pausing =>
    obtain ⟨split, reduced⟩ := first items
    rw [idle] at recalls
    cases pausing with
    | pauses pause length => exact ⟨_, split, _, reduced, recalls, other⟩
    | fails endless => exact ⟨_, split, trivial⟩

theorem Moves.remembers (moves : Moves a line result) (remembers : Remembers fed a line) :
    Remembers fed result.1 result.2.1 := by
  cases moves with
  | takes result stage taking => exact taking.remembers stage remembers
  | settled r stage =>
    obtain ⟨taken, split, recalls⟩ := remembers
    rw [stage] at recalls
    obtain ⟨before, requests, _⟩ := recalls
    exact ⟨taken, split, Nat.one_pos, before, requests, rfl⟩
  | asks r number result stage asking =>
    obtain ⟨taken, split, recalls⟩ := remembers
    rw [stage] at recalls
    obtain ⟨_, before, requests, previous⟩ := recalls
    cases asking with
    | exhausted spent =>
      refine ⟨taken, split, ?_⟩
      change a.previous = lastDevice taken.reduceOption
      rw [requests, lastDevice_concat, previous]
    | refused f within refused => exact ⟨taken, split, trivial⟩
    | asks next exchange pause within accepted asks call length =>
      exact ⟨taken, split, before, requests, previous⟩
    | overlong next within accepted asks => exact ⟨taken, split, trivial⟩
  | settles r number exchange result stage settling =>
    obtain ⟨taken, split, recalls⟩ := remembers
    rw [stage] at recalls
    obtain ⟨before, requests, previous⟩ := recalls
    cases settling with
    | delivers next bytes value calm works reply decoded =>
      refine ⟨taken, split, ?_⟩
      change a.previous = lastDevice taken.reduceOption
      rw [requests, lastDevice_concat, previous]
    | retries next fault result reply warns pausing =>
      cases pausing with
      | pauses pause length => exact ⟨taken, split, before, requests, previous⟩
      | fails endless => exact ⟨taken, split, trivial⟩
    | fails next f sound calm works => exact ⟨taken, split, trivial⟩
  | retried r number stage =>
    obtain ⟨taken, split, recalls⟩ := remembers
    rw [stage] at recalls
    exact ⟨taken, split, Nat.succ_pos number, recalls⟩
  | holds reading stage full => exact remembers
  | delivers reading stage room =>
    obtain ⟨taken, split, recalls⟩ := remembers
    rw [stage] at recalls
    exact ⟨taken, split, recalls⟩
  | withholds control stage full => exact remembers
  | reports control stage room =>
    obtain ⟨taken, split, recalls⟩ := remembers
    rw [stage] at recalls
    exact ⟨taken, split, recalls⟩
  | stays outcome stage => exact remembers

theorem Remembers.cancel (remembers : Remembers fed a line) :
    Remembers fed (a.cancel line).1 (a.cancel line).2 := by
  obtain ⟨taken, split, recalls⟩ := remembers
  rcases a.cancel_cases line with alive | ⟨_, same⟩
  · obtain ⟨agent, link, items⟩ := cancel_alive line alive
    rw [agent]
    exact ⟨taken, items.symm ▸ split, trivial⟩
  · rw [same]
    exact ⟨taken, split, recalls⟩

theorem Observed.remembers (unused : line₀.link.Unused)
    (observed : Observed (make settings) line₀ puts log outputs a line) :
    Remembers (line₀.requests.items ++ puts) a line := by
  induction observed with
  | start => exact ⟨[], List.append_nil _, rfl⟩
  | step observed ih => exact (step_moves (observed.serves unused).2).remembers ih
  | cancel _ ih => exact ih.cancel
  | put item _ ih =>
    obtain ⟨taken, split, recalls⟩ := ih
    refine ⟨taken, ?_, recalls⟩
    rw [← List.append_assoc, split, List.append_assoc]
    rfl
  | aside _ apart ih =>
    obtain ⟨taken, split, recalls⟩ := ih
    exact ⟨taken, apart.requests.symm ▸ split, recalls⟩

end MeterPolling.Agent
