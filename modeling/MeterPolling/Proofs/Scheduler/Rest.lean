import MeterPolling.Proofs.Chain.Tasks
import MeterPolling.Proofs.Number
import MeterPolling.Proofs.Scheduler.Run
/-!
What follows a round that took no time. The interval of a scheduler never changes, and all of it is
left then: an interval above zero is slept, unless it is past the largest number. A NaN is no length
that could be slept, so the next round begins in the same instant.
-/
namespace MeterPolling.Scheduler

variable {s s₀ : Scheduler} {line line₀ : Line} {c : Consumer}

/-- What can follow a round that took no time. -/
inductive Follows (interval : Number) : Scheduler × Line × Pause → Prop where
  /-- The next round, after all of the interval. -/
  | rests (s : Scheduler) (line : Line) (length : Binary64) : s.stage = .resting →
      interval.toBinary64? = some length → Binary64.zero.less length = true →
      Follows interval (s, line, .sleeps length)
  /-- The next round at once. -/
  | goes_on (s : Scheduler) (line : Line) : s.stage = .resting → interval = .real .nan →
      Follows interval (s, line, .yields)
  /-- No round at all. -/
  | fails (s : Scheduler) (line : Line) : s.stage = .failed .tooLarge →
      interval.toBinary64? = none → Follows interval (s, line, .ends)

theorem Follows.sleeps {x : Binary64} {next : Scheduler × Line × Pause}
    (follows : Follows (.real x) next) (positive : Binary64.zero.less x = true) :
    next.2.2 = .sleeps x := by
  cases follows with
  | rests s line length _ near =>
    cases near
    rfl
  | goes_on s line _ nan =>
    cases nan
    cases positive
  | fails s line _ past => cases past

theorem Follows.yields {next : Scheduler × Line × Pause} (follows : Follows (.real .nan) next) :
    next.2.2 = .yields := by
  cases follows with
  | rests s line length _ near positive =>
    cases near
    cases positive
  | goes_on => rfl
  | fails s line _ past => cases past

theorem rest_follows (s : Scheduler) (finite : line.now.units?.isSome)
    (above : s.interval = .real .nan ∨ Number.less 0 s.interval = true) :
    Follows s.interval (s.rest line line.now) := by
  simp only [rest, Binary64.sub_self finite]
  split
  · rename_i past
    exact .fails _ _ rfl past
  · rename_i length near
    rcases above with nan | above
    · rw [nan] at near
      cases near
      rw [Binary64.nan_sub, Binary64.not_less_nan]
      exact .goes_on _ _ rfl nan
    · have positive := Number.toBinary64?_above above near
      rw [Binary64.sub_zero positive, if_pos positive]
      exact .rests _ _ length rfl near positive

theorem cancel_interval (s : Scheduler) : s.cancel.interval = s.interval := by
  unfold cancel
  split <;> rfl

theorem Run.interval (run : Run s₀ line₀ s line c) : s.interval = s₀.interval := by
  induction run with
  | start => rfl
  | @step s line _ _ ih => exact (s.step_interval line).trans ih
  | @cancel s _ _ _ ih => exact s.cancel_interval.trans ih
  | consume _ ih => exact ih
  | aside _ _ ih => exact ih

/-- When all requests of a round were acknowledged in the instant in which it began. -/
theorem Run.follows (run : Run s₀ line₀ s line c) (joining : s.stage = .joining line.now)
    (done : line.requests.unacknowledged = 0) (finite : line.now.units?.isSome)
    (above : s₀.interval = .real .nan ∨ Number.less 0 s₀.interval = true) :
    Follows s₀.interval (s.step line) := by
  have same := run.interval
  rw [← same] at above ⊢
  rw [Scheduler.step, joining]
  simp only [done, if_true]
  exact rest_follows s finite above

end MeterPolling.Scheduler
