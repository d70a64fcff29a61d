import MeterPolling.Proofs.Agent.Observed
import MeterPolling.Proofs.Binary64
/-!
Runs of an agent on a clock. An agent that was let run goes on until it pauses, and only while it is
paused anything else happens. From a pause with a deadline it comes back no earlier than that; from
any other pause it may come back whenever the others let it. The clock never goes back.
-/
namespace MeterPolling

theorem Number.zero_le_length {delay : Number} {length : Binary64}
    (positive : Number.less 0 delay = true) (found : delay.toBinary64? = some length) :
    Binary64.zero ≤ length := by
  cases delay with
  | integer n =>
    have above : (0 : Int) * Binary64.one < n * Binary64.one := of_decide_eq_true positive
    have sign : ¬ n < 0 :=
      Int.not_lt.mpr (Int.le_of_lt (Int.lt_of_mul_lt_mul_right above (Int.natCast_nonneg _)))
    obtain ⟨m, _, rfl⟩ := Option.map_eq_some_iff.mp found
    rw [decide_eq_false sign]
    exact Binary64.zero_le_finite m
  | real x =>
    obtain rfl : x = length := Option.some.inj found
    cases x with
    | nan => cases positive
    | infinite s =>
      cases s with
      | true => cases positive
      | false => exact Binary64.zero_le_infinite
    | finite s m =>
      have above : (0 : Int) * Binary64.one < Binary64.signedUnits s m := of_decide_eq_true positive
      refine ⟨rfl, rfl, ?_⟩
      have none : Binary64.signedUnits false Magnitude.zero = 0 := rfl
      rw [Binary64.zero, Binary64.less, none, decide_eq_false_iff_not, Int.not_lt]
      rw [Int.zero_mul] at above
      exact Int.le_of_lt above

/-- Who pauses for some time sleeps, and no shorter than no time. -/
theorem Pause.sleeps_nonneg {delay : Number} {length : Binary64}
    (pause : Pause.ofDelay? delay = some (.sleeps length)) :
    Number.less 0 delay = true ∧ delay.toBinary64? = some length ∧ Binary64.zero ≤ length := by
  unfold Pause.ofDelay? at pause
  split at pause
  · rename_i positive
    obtain ⟨_, found, same⟩ := Option.map_eq_some_iff.mp pause
    cases same
    exact ⟨positive, found, Number.zero_le_length positive found⟩
  · cases pause

/-- Who ends over a pause that is too long sleeps for no less than no time. -/
theorem Pause.sleeps_or_ends {delay : Number} {length : Binary64}
    (sleeps : (Pause.ofDelay? delay).getD .ends = .sleeps length) : Binary64.zero ≤ length := by
  cases found : Pause.ofDelay? delay with
  | none =>
    rw [found] at sleeps
    cases sleeps
  | some pause =>
    rw [found] at sleeps
    obtain rfl : pause = .sleeps length := sleeps
    exact (Pause.sleeps_nonneg found).2.2

theorem Pause.positive_sleeps {delay : Number} {pause : Pause}
    (positive : Number.less 0 delay = true) (length : Pause.ofDelay? delay = some pause) :
    ∃ d, delay.toBinary64? = some d ∧ pause = .sleeps d ∧ Binary64.zero ≤ d := by
  rw [Pause.ofDelay?, if_pos positive] at length
  obtain ⟨d, found, rfl⟩ := Option.map_eq_some_iff.mp length
  exact ⟨d, found, rfl, Number.zero_le_length positive found⟩

namespace Agent

inductive Turn where
  | running
  | ready
  | asleep (deadline : Binary64)
  | waiting
  | gone

namespace Turn

def after (now : Binary64) : Pause → Turn
  | .continues => .running
  | .yields => .ready
  | .sleeps delay => .asleep (now + delay)
  | .waits => .waiting
  | .ends => .gone

def Due (now : Binary64) : Turn → Prop
  | .ready | .waiting => True
  | .asleep deadline => deadline ≤ now
  | .running | .gone => False

/-- The earliest time of the next step. -/
def next (now : Binary64) : Turn → Binary64
  | .asleep deadline => deadline
  | _ => now

theorem Due.next_le {now : Binary64} {turn : Turn} (due : turn.Due now) (clock : now ≤ now) :
    turn.next now ≤ now := by
  cases turn with
  | asleep deadline => exact due
  | _ => exact clock

theorem Due.paused {now : Binary64} {turn : Turn} (due : turn.Due now) : turn ≠ .running := by
  rintro rfl
  exact due

end Turn

/-- A run with the items put meanwhile, the log of its attempts and the agent's turn. -/
inductive Timed (a₀ : Agent) (line₀ : Line) :
    List (Option Request) → List Attempt → Agent → Line → Turn → Prop where
  | start : Timed a₀ line₀ [] [] a₀ line₀ .ready
  | resume : Timed a₀ line₀ puts log a line turn → turn.Due line.now →
      Timed a₀ line₀ puts log a line .running
  | step : Timed a₀ line₀ puts log a line .running →
      Timed a₀ line₀ puts (a.observe line (a.step line).2.1 log) (a.step line).1 (a.step line).2.1
        (.after (a.step line).2.1.now (a.step line).2.2)
  | cancel : Timed a₀ line₀ puts log a line turn → turn ≠ .running →
      Timed a₀ line₀ puts log (a.cancel line).1 (a.cancel line).2 .gone
  | put (item : Option Request) : Timed a₀ line₀ puts log a line turn → turn ≠ .running →
      Timed a₀ line₀ (puts ++ [item]) log a { line with requests := line.requests.put item } turn
  | aside : Timed a₀ line₀ puts log a line turn → turn ≠ .running → line.Apart line' →
      line.now ≤ line'.now → Timed a₀ line₀ puts log a line' turn

variable {a₀ a : Agent} {line₀ line : Line} {puts : List (Option Request)} {log : List Attempt}
  {turn : Turn}

theorem Timed.observed (timed : Timed a₀ line₀ puts log a line turn) :
    ∃ outputs, Observed a₀ line₀ puts log outputs a line := by
  induction timed with
  | start => exact ⟨.none, .start⟩
  | resume _ _ ih => exact ih
  | step _ ih =>
    obtain ⟨outputs, observed⟩ := ih
    exact ⟨_, observed.step⟩
  | cancel _ _ ih =>
    obtain ⟨outputs, observed⟩ := ih
    exact ⟨_, observed.cancel⟩
  | put item _ _ ih =>
    obtain ⟨outputs, observed⟩ := ih
    exact ⟨outputs, observed.put item⟩
  | aside _ _ apart _ ih =>
    obtain ⟨outputs, observed⟩ := ih
    exact ⟨outputs, observed.aside apart⟩

/-- The clock starts at a number and only goes on. -/
theorem Timed.clock (start : Binary64.zero ≤ line₀.now)
    (timed : Timed a₀ line₀ puts log a line turn) : Binary64.zero ≤ line.now := by
  induction timed with
  | start => exact start
  | resume _ _ ih => exact ih
  | step _ ih =>
    rw [step_now]
    exact ih
  | @cancel _ _ a line _ _ _ ih =>
    have same : (a.cancel line).2.now = line.now := (a.cancel_quiet line).link.now
    rw [same]
    exact ih
  | put item _ _ ih => exact ih
  | aside _ _ _ later ih => exact Binary64.le_trans ih later

end Agent

end MeterPolling
