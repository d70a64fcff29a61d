import MeterPolling.Proofs.Scheduler.Rest
import MeterPolling.Proofs.Seat
/-!
The rounds of a scheduler on a clock. A scheduler that was let run goes on until it pauses, and only
while it is paused anything else happens: others take requests and acknowledge them, as many at a time
and as late as they like, and the clock moves. The clock stands still as long as the scheduler is
ready or has what it waits for, and it does not pass the end of a sleep.
-/
namespace MeterPolling

def Event.overrun? : Event → Option Binary64
  | .noted (.roundOverran elapsed _) => some elapsed
  | _ => none

def Line.overruns (line : Line) : List Binary64 := line.link.recorded Event.overrun?

structure Line.Around (line line' : Line) : Prop where
  requests : line'.requests = line.requests
  now : line'.now = line.now
  overruns : line'.overruns = line.overruns

namespace Scheduler

open Agent (Turn)

structure Finish where
  /-- When the last of its requests was acknowledged. -/
  time : Option Binary64
  warnings : List Binary64

/-- The rounds so far, in order. Of a round that is under way there is only a start. -/
structure Log where
  starts : List Binary64
  /-- When a request of the round under way was acknowledged last. -/
  acknowledged : Option Binary64
  finishes : List Finish

namespace Log

/-- What is entered for a step of the scheduler: the start of a round, or its end. -/
def step (s : Scheduler) (line line' : Line) (log : Log) : Log :=
  match s.stage with
  | .starting => { log with starts := log.starts ++ [line.now], acknowledged := none }
  | .joining _ =>
    if line.requests.unacknowledged = 0 then
      let warnings := line'.overruns.drop line.overruns.length
      { log with finishes := log.finishes ++ [⟨log.acknowledged, warnings⟩] }
    else log
  | _ => log

def acknowledge (now : Binary64) (log : Log) : Log := { log with acknowledged := some now }

end Log

/-- Whether the clock may move to a time. -/
def Lets (s : Scheduler) (line : Line) (now : Binary64) : Turn → Prop
  | .running | .ready => False
  | .asleep deadline => now ≤ deadline
  | .waiting => s.awake line = false
  | .gone => True

/-- A run on a clock, with the log of its rounds and the scheduler's turn. -/
inductive Timed (s₀ : Scheduler) (line₀ : Line) : Log → Scheduler → Line → Turn → Prop where
  | start : Timed s₀ line₀ ⟨[], none, []⟩ s₀ line₀ .ready
  | resume : Timed s₀ line₀ log s line turn → turn.Due line.now →
      Timed s₀ line₀ log s line .running
  | step : Timed s₀ line₀ log s line .running →
      Timed s₀ line₀ (log.step s line (s.step line).2.1) (s.step line).1 (s.step line).2.1
        (.after (s.step line).2.1.now (s.step line).2.2)
  | take (item : Option Request) (left : Channel (Option Request)) :
      Timed s₀ line₀ log s line turn → turn ≠ .running →
      line.requests.take? = some (item, left) →
      Timed s₀ line₀ log s { line with requests := left } turn
  /-- A request that was taken and not acknowledged yet is acknowledged. -/
  | acknowledge : Timed s₀ line₀ log s line turn → turn ≠ .running →
      line.requests.items.length < line.requests.unacknowledged →
      Timed s₀ line₀ (log.acknowledge line.now) s line.acknowledge turn
  | aside : Timed s₀ line₀ log s line turn → turn ≠ .running → line.Around line' →
      Timed s₀ line₀ log s line' turn
  | clock (now : Binary64) : Timed s₀ line₀ log s line turn → Lets s line now turn →
      Timed s₀ line₀ log s (line.setNow now) turn

variable {s s₀ : Scheduler} {line line₀ : Line} {log : Log} {turn : Turn} {delay deadline : Binary64}

/-- A scheduler sleeps only between two rounds, and no shorter than no time. -/
theorem step_sleeps (sleeps : (s.step line).2.2 = .sleeps delay) :
    (s.step line).1.stage = .resting ∧ Binary64.zero ≤ delay := by
  unfold step rest at sleeps ⊢
  split at sleeps
  case h_4 stage =>
    split at sleeps
    · rename_i acknowledged
      rw [if_pos acknowledged]
      simp only at sleeps ⊢
      split at sleeps
      · cases sleeps
      · simp only at sleeps
        split at sleeps
        · rename_i positive
          cases sleeps
          exact ⟨rfl, Binary64.le_of_less positive⟩
        · cases sleeps
    · cases sleeps
  case h_3 => split at sleeps <;> cases sleeps
  all_goals cases sleeps

theorem Timed.rests (timed : Timed s₀ line₀ log s line turn) (asleep : turn = .asleep deadline) :
    s.stage = .resting := by
  induction timed with
  | start => cases asleep
  | resume => cases asleep
  | @step log s line _ _ =>
    obtain ⟨delay, sleeps⟩ := Loop.sleeps_of_asleep asleep
    exact (step_sleeps sleeps).1
  | take _ _ _ _ _ ih => exact ih asleep
  | acknowledge _ _ _ ih => exact ih asleep
  | aside _ _ _ ih => exact ih asleep
  | clock _ _ _ ih => exact ih asleep

/-- Nothing that others do wakes a scheduler from its sleep. -/
theorem Timed.deaf (timed : Timed s₀ line₀ log s line (.asleep deadline)) (line' : Line) :
    s.awake line' = false := by
  rw [awake, timed.rests rfl]

end Scheduler

end MeterPolling
