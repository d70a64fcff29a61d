import MeterPolling.CommandLine
import MeterPolling.Proofs.Config.Override
import MeterPolling.Proofs.Scheduler.Rest
/-!
The interval of a configuration. Whatever a file and overrides say, it is a number above zero or a
NaN, which is let through because it is not at most zero. With a NaN the rounds follow one another
without any rest.
-/
namespace MeterPolling.Config

variable {settings : List (String × Setting)} {c : Config} {format : Format} {file : File}

theorem Valid.interval_above (valid : Valid settings) :
    ∃ n, (value settings "poll_interval").number? = some n ∧
      (n = .real .nan ∨ Number.less 0 n = true) := by
  have above := valid.interval
  unfold isNotPositive at above
  split at above
  · rename_i n number
    exact ⟨n, number, Number.nan_or_above (Except.ok.inj above)⟩
  · cases above

/-- At all times the interval is above zero, unless it is a NaN. After a round that took no time, an
interval above zero is slept as a whole, or is past the largest number and fails; a NaN lets the next
round begin at once. -/
theorem Reached.interval_is_above_zero_or_nan (reached : Reached format file c) :
    ∃ n, (c.get "poll_interval").number? = some n ∧ (n = .real .nan ∨ Number.less 0 n = true) ∧
      ∀ devices text line₀ s line consumer,
        Scheduler.Run (.make devices n text) line₀ s line consumer →
        s.stage = .joining line.now → line.requests.unacknowledged = 0 →
        line.now.units?.isSome → Scheduler.Follows n (s.step line) := by
  obtain ⟨n, number, above⟩ := reached.valid.interval_above
  refine ⟨n, number, above, ?_⟩
  intro devices text line₀ s line consumer run joining done finite
  exact run.follows joining done finite above

/-- In a first round of two requests, each is acknowledged at once and before the next one is put. -/
theorem pair_joins (n : Number) (text : String) : ∃ s line consumer,
    Scheduler.Run (.make Scheduler.pair n text) Scheduler.pairLine s line consumer ∧
      s.stage = .joining line.now ∧ line.requests.unacknowledged = 0 ∧ line.now.units?.isSome := by
  have run : Scheduler.Run (.make Scheduler.pair n text) Scheduler.pairLine _ _ _ :=
    Scheduler.Run.start.step.step.consume.consume.step.consume.consume.step
  refine ⟨_, _, _, run, ?_, ?_, ?_⟩ <;> with_unfolding_all rfl

/-- The defaults with half a second, and a whole round, after which half a second is slept. -/
theorem Reached.half_a_second_is_slept :
    Reached .toml .missing (unset.override fasterEven ["COM3"]).1 ∧
      ∃ s line consumer,
        Scheduler.Run (.make Scheduler.pair (.real (.ofQuotient false 1 2)) "0.5")
          Scheduler.pairLine s line consumer ∧
        s.stage = .joining line.now ∧ line.requests.unacknowledged = 0 ∧ line.now.units?.isSome ∧
        Scheduler.Follows (.real (.ofQuotient false 1 2)) (s.step line) ∧
        (s.step line).2.2 = .sleeps (.ofQuotient false 1 2) := by
  have reached := Reached.overridden fasterEven ["COM3"] (.loaded unset_loads)
  have interval : (unset.override fasterEven ["COM3"]).1.get "poll_interval" =
      .number (.real (.ofQuotient false 1 2)) := by decide +kernel
  obtain ⟨n, number, _, follows⟩ := reached.interval_is_above_zero_or_nan
  rw [interval] at number
  cases number
  obtain ⟨s, line, consumer, run, joining, done, finite⟩ :=
    pair_joins (.real (.ofQuotient false 1 2)) "0.5"
  have follows := follows _ _ _ _ _ _ run joining done finite
  have positive : Binary64.zero.less (.ofQuotient false 1 2) = true := by decide +kernel
  exact ⟨reached, s, line, consumer, run, joining, done, finite, follows, follows.sleeps positive⟩

def unending : CommandLine.Options := { CommandLine.Options.initial with interval := some .nan }

/-- The interval is not always above zero, and a round that took no time may be followed by the next
one at once. -/
theorem nan_is_let_through :
    CommandLine.read ["-i", "nan"] = .ok (unending, []) ∧
      (¬ ∀ c, Reached .toml .missing c →
        ∃ n, (c.get "poll_interval").number? = some n ∧ Number.less 0 n = true) ∧
      ∃ s line consumer,
        Scheduler.Run (.make Scheduler.pair (.real .nan) "nan") Scheduler.pairLine s line consumer ∧
        s.stage = .joining line.now ∧ line.requests.unacknowledged = 0 ∧
        (s.step line).2.2 = .yields := by
  refine ⟨by decide +kernel, ?_, ?_⟩
  · intro above
    have interval : (unset.override (CommandLine.overrides unending []) ["COM3"]).1.get
        "poll_interval" = .number (.real .nan) := by decide +kernel
    obtain ⟨n, number, positive⟩ := above _
      (.overridden (CommandLine.overrides unending []) ["COM3"] (.loaded unset_loads))
    rw [interval] at number
    cases number
    cases positive
  · obtain ⟨s, line, consumer, run, joining, done, finite⟩ := pair_joins (.real .nan) "nan"
    have follows := run.follows joining done finite (.inl rfl)
    exact ⟨s, line, consumer, run, joining, done, follows.yields⟩

end MeterPolling.Config
