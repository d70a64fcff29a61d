import MeterPolling.Proofs.Agent.Run
import MeterPolling.Proofs.Scheduler.Rounds
/-!
The books of an agent. It takes the items that are put one at a time, in their order, and each is
acknowledged once, when the agent is done with it or drops it. So what is left to be acknowledged is
what is still queued and what the agent has in hand, whichever way a request ends and wherever the
agent is cancelled; and whoever waits for all to be acknowledged waits for just that.
-/
namespace MeterPolling.Agent

/-- How many items were taken at a stage and are not dealt with. -/
def Stage.inHand : Stage → Nat
  | .idle | .ended _ => 0
  | _ => 1

/-- What an agent does to the queue in one move, with the number of items in hand before and after.
Nothing is acknowledged unless something is left to be. -/
inductive Dealing (before : Channel (Option Request)) :
    Channel (Option Request) → Nat → Nat → Prop where
  | nothing (hand : Nat) : Dealing before before hand hand
  | takes (item : Option Request) (left : Channel (Option Request)) :
      before.take? = some (item, left) → Dealing before left 0 1
  | acknowledges : 0 < before.unacknowledged → Dealing before before.acknowledge 1 0
  | dropsAtOnce (item : Option Request) (left : Channel (Option Request)) :
      before.take? = some (item, left) → 0 < left.unacknowledged →
      Dealing before left.acknowledge 0 0

/-- All that was put and is not acknowledged is queued or in hand. -/
def Balanced (a : Agent) (line : Line) : Prop :=
  line.requests.unacknowledged = line.requests.items.length + a.stage.inHand

/-- A move of an agent on a line, as a dealing with its queue. -/
def Deals (a : Agent) (line : Line) (next : Agent × Line) : Prop :=
  Dealing line.requests next.2.requests a.stage.inHand next.1.stage.inHand

variable {a : Agent} {line next line₀ : Line} {settings : Settings} {puts : List (Option Request)}
  {before after : Channel (Option Request)} {hand hand' : Nat}

theorem take_items {item : Option Request} {left : Channel (Option Request)}
    (taken : before.take? = some (item, left)) :
    before.items = item :: left.items ∧ left.unacknowledged = before.unacknowledged := by
  unfold Channel.take? at taken
  split at taken
  · cases taken
  · rename_i first rest items
    cases taken
    exact ⟨items, rfl⟩

/-- Dealing keeps the books balanced. -/
theorem Dealing.balance (dealing : Dealing before after hand hand')
    (balanced : before.unacknowledged = before.items.length + hand) :
    after.unacknowledged = after.items.length + hand' := by
  cases dealing with
  | nothing => exact balanced
  | takes item left taken =>
    obtain ⟨items, same⟩ := take_items taken
    rw [items, List.length_cons] at balanced
    omega
  | acknowledges pending =>
    change before.unacknowledged - 1 = before.items.length + 0
    omega
  | dropsAtOnce item left taken pending =>
    obtain ⟨items, same⟩ := take_items taken
    rw [items, List.length_cons] at balanced
    change left.unacknowledged - 1 = left.items.length + 0
    omega

/-- Items were dealt with and acknowledged, are in hand or are queued, in this order. -/
def Filed (fed : List (Option Request)) (hand : Nat) (queue : Channel (Option Request)) : Prop :=
  ∃ acknowledged held, fed = acknowledged ++ held ++ queue.items ∧ held.length = hand

theorem Dealing.filed {fed : List (Option Request)} (dealing : Dealing before after hand hand')
    (filed : Filed fed hand before) : Filed fed hand' after := by
  obtain ⟨acknowledged, held, split, count⟩ := filed
  cases dealing with
  | nothing => exact ⟨acknowledged, held, split, count⟩
  | takes item left taken =>
    obtain rfl := List.length_eq_zero_iff.mp count
    refine ⟨acknowledged, [item], ?_, rfl⟩
    rw [split, (take_items taken).1]
    simp
  | acknowledges pending =>
    refine ⟨acknowledged ++ held, [], ?_, rfl⟩
    rw [split, List.append_nil]
    rfl
  | dropsAtOnce item left taken pending =>
    obtain rfl := List.length_eq_zero_iff.mp count
    refine ⟨acknowledged ++ [item], [], ?_, rfl⟩
    rw [split, (take_items taken).1]
    simp [Channel.acknowledge]

/-! ## Moves -/

theorem fail_deals (f : Failure) (same : next.requests = line.requests)
    (busy : a.stage.inHand = 1) (pending : 0 < line.requests.unacknowledged) :
    Deals a line ((a.fail next f).1, (a.fail next f).2.1) := by
  unfold Deals fail Line.acknowledge
  rw [busy, same]
  exact .acknowledges pending

theorem Balanced.pending (balanced : Balanced a line) (busy : a.stage.inHand = 1) :
    0 < line.requests.unacknowledged := by
  rw [balanced, busy]
  exact Nat.succ_pos _

theorem takeRequest_deals (balanced : Balanced a line) (idle : a.stage = .idle) :
    Deals a line ((a.takeRequest line).1, (a.takeRequest line).2.1) := by
  have free : a.stage.inHand = 0 := by rw [idle]; rfl
  have pending {item : Option Request} {left : Channel (Option Request)}
      (taken : line.requests.take? = some (item, left)) : 0 < left.unacknowledged := by
    obtain ⟨items, same⟩ := take_items taken
    rw [same, balanced, items, List.length_cons]
    omega
  unfold Deals takeRequest
  rw [free]
  split
  · rw [free]
    exact .nothing 0
  · rename_i left taken
    exact .dropsAtOnce none left taken (pending taken)
  · rename_i r left taken
    simp only
    split
    · exact .takes (some r) left taken
    · -- a pause that has no length drops what was just taken
      unfold pauseFor
      split
      · exact .takes (some r) left taken
      · exact .dropsAtOnce (some r) left taken (pending taken)

theorem ask_deals {r : Request} {attempt : Nat} (balanced : Balanced a line)
    (asking : a.stage = .asking r attempt) :
    Deals a line ((a.ask line r attempt).1, (a.ask line r attempt).2.1) := by
  have busy : a.stage.inHand = 1 := by rw [asking]; rfl
  have pending := balanced.pending busy
  unfold ask
  split
  · rw [Deals, busy]
    exact .nothing 1
  · split
    · exact fail_deals _ rfl busy pending
    · simp only
      split
      · rw [Deals, busy]
        exact .nothing 1
      · exact fail_deals _ rfl busy pending

theorem settle_deals {r : Request} {attempt : Nat} {exchange : Exchange}
    (balanced : Balanced a line) (waiting : a.stage = .waiting r attempt exchange) :
    Deals a line
      ((a.settle line r attempt exchange).1, (a.settle line r attempt exchange).2.1) := by
  have busy : a.stage.inHand = 1 := by rw [waiting]; rfl
  have pending := balanced.pending busy
  unfold settle
  split
  · simp only
    split
    · rw [Deals, busy]
      exact .nothing 1
    · exact fail_deals _ rfl busy pending
  · unfold pauseFor
    split
    · rw [Deals, busy]
      exact .nothing 1
    · exact fail_deals _ rfl busy pending
  · exact fail_deals _ rfl busy pending

theorem step_deals (balanced : Balanced a line) :
    Deals a line ((a.step line).1, (a.step line).2.1) := by
  unfold step
  cases stage : a.stage with
  | idle => exact takeRequest_deals balanced stage
  | asking r attempt => exact ask_deals balanced stage
  | waiting r attempt exchange => exact settle_deals balanced stage
  | delivering reading =>
    simp only
    split
    · exact .nothing _
    · rw [Deals, stage]
      exact .nothing 1
  | reporting control =>
    have busy : a.stage.inHand = 1 := by rw [stage]; rfl
    simp only
    split
    · exact .nothing _
    · rw [Deals, busy]
      exact .acknowledges (balanced.pending busy)
  | settling r =>
    rw [Deals, stage]
    exact .nothing 1
  | retrying r attempt =>
    rw [Deals, stage]
    exact .nothing 1
  | ended outcome => exact .nothing _

theorem cancel_deals (balanced : Balanced a line) : Deals a line (a.cancel line) := by
  unfold cancel
  cases stage : a.stage with
  | ended outcome => exact .nothing _
  | idle =>
    rw [Deals, stage]
    exact .nothing 0
  | _ =>
    have busy : a.stage.inHand = 1 := by rw [stage]; rfl
    rw [Deals, busy]
    exact .acknowledges (balanced.pending busy)

/-! ## Runs -/

theorem Run.balanced (fresh : line₀.requests.unacknowledged = line₀.requests.items.length)
    (run : Run (make settings) line₀ puts a line) : Balanced a line := by
  induction run with
  | start => exact fresh
  | step _ ih => exact (step_deals ih).balance ih
  | cancel _ ih => exact (cancel_deals ih).balance ih
  | @put _ a line item _ ih =>
    change line.requests.unacknowledged + 1 = (line.requests.items ++ [item]).length + _
    rw [ih, List.length_append, List.length_singleton]
    omega
  | aside _ aside ih =>
    rw [Balanced, aside.requests]
    exact ih

theorem Run.filed (fresh : line₀.requests.unacknowledged = line₀.requests.items.length)
    (run : Run (make settings) line₀ puts a line) :
    Filed (line₀.requests.items ++ puts) a.stage.inHand line.requests := by
  induction run with
  | start => exact ⟨[], [], by simp, rfl⟩
  | step run ih => exact (step_deals (run.balanced fresh)).filed ih
  | cancel run ih => exact (cancel_deals (run.balanced fresh)).filed ih
  | put item _ ih =>
    obtain ⟨acknowledged, held, split, count⟩ := ih
    refine ⟨acknowledged, held, ?_, count⟩
    rw [← List.append_assoc, split, List.append_assoc]
    rfl
  | aside _ aside ih =>
    rw [aside.requests]
    exact ih

/-- Whoever waits for the requests to be acknowledged goes on as soon as none is queued or in hand,
and not before. -/
structure Joins (a : Agent) (line : Line) (s : Scheduler) (started : Binary64) : Prop where
  awake : s.awake line = true ↔ line.requests.items = [] ∧ a.stage.inHand = 0
  goes_on : (s.step line).1.stage ≠ .joining started ↔
    line.requests.items = [] ∧ a.stage.inHand = 0

structure Books (fed : List (Option Request)) (a : Agent) (line : Line) : Prop where
  filed : ∃ acknowledged held, fed = acknowledged ++ held ++ line.requests.items ∧
    held.length = a.stage.inHand ∧
    line.requests.unacknowledged + acknowledged.length = fed.length
  unacknowledged : line.requests.unacknowledged = line.requests.items.length + a.stage.inHand
  ended : a.outcome?.isSome → line.requests.unacknowledged = line.requests.items.length
  step : Deals a line ((a.step line).1, (a.step line).2.1)
  cancel : Deals a line (a.cancel line)
  joins : ∀ (s : Scheduler) started, s.stage = .joining started → Joins a line s started

theorem Balanced.settled (balanced : Balanced a line) :
    line.requests.unacknowledged = 0 ↔ line.requests.items = [] ∧ a.stage.inHand = 0 := by
  rw [balanced, Nat.add_eq_zero_iff, List.length_eq_zero_iff]

theorem Balanced.joins {s : Scheduler} {started : Binary64} (balanced : Balanced a line)
    (joining : s.stage = .joining started) : Joins a line s started := by
  constructor
  · rw [← balanced.settled, Scheduler.awake, joining]
    exact beq_iff_eq
  · rw [← balanced.settled, Scheduler.step, joining]
    by_cases settled : line.requests.unacknowledged = 0
    · simp only [settled, if_true, iff_true]
      rcases s.rest_stage line started with resting | failed
      · rw [resting]
        simp
      · rw [failed]
        simp
    · simp [settled, joining]

/-- However the requests end, at every moment of a run each item taken has been acknowledged exactly
once, unless it is in hand. -/
theorem Run.acknowledges_each_item_once
    (fresh : line₀.requests.unacknowledged = line₀.requests.items.length)
    (run : Run (make settings) line₀ puts a line) :
    Books (line₀.requests.items ++ puts) a line := by
  have balanced := run.balanced fresh
  constructor
  case filed =>
    obtain ⟨acknowledged, held, split, count⟩ := run.filed fresh
    refine ⟨acknowledged, held, split, count, ?_⟩
    rw [balanced, split]
    simp only [List.length_append]
    omega
  case unacknowledged => exact balanced
  case ended =>
    intro ended
    unfold outcome? at ended
    split at ended
    · rename_i stage
      rw [balanced, stage]
      rfl
    · cases ended
  case step => exact step_deals balanced
  case cancel => exact cancel_deals balanced
  case joins => exact fun s started joining => balanced.joins joining

/-- An agent that is cancelled over its first call has acknowledged the request and leaves the order
to stop in the queue. -/
theorem Run.cancelled_call_is_acknowledged :
    let line := hesitantLine none 0
    let asked := (make .default).advance 3 line
    let last := asked.1.cancel asked.2
    line.requests.unacknowledged = line.requests.items.length ∧
      Run (make .default) line [] last.1 last.2 ∧ asked.1.stage.inHand = 1 ∧
      last.1.stage = .ended .cancelled ∧ last.2.requests.items = [none] ∧
      Books (line.requests.items ++ []) last.1 last.2 := by
  intro line asked last
  have fresh : line.requests.unacknowledged = line.requests.items.length := rfl
  have run : Run (make .default) line [] last.1 last.2 := (Run.start.advance 3).cancel
  have busy : asked.1.stage.inHand = 1 := by decide +kernel
  have ended : last.1.stage = .ended .cancelled := by decide +kernel
  have left : last.2.requests.items = [none] := by decide +kernel
  exact ⟨fresh, run, busy, ended, left, Run.acknowledges_each_item_once fresh run⟩

end MeterPolling.Agent
