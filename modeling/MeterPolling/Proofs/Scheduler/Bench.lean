import MeterPolling.Proofs.Loop
import MeterPolling.Proofs.Scheduler.Run
import MeterPolling.Scheduler.Bench
/-!
The worker of the bench is a consumer of one request at a time, so that the bench gives runs of its
scheduler. However long the worker is busy, it never sees a whole round left when it takes a request.
-/
namespace MeterPolling.Scheduler.Bench

variable {devices : List (Int × Producer)} {interval : Number} {text : String} {bound : Nat}
  {link : Link} {line : Line} {s : State}

structure State.Runs (devices : List (Int × Producer)) (interval : Number) (text : String)
    (bound : Nat) (link : Link) (s : State) (c : Consumer) : Prop where
  run : Run (make devices interval text) (.make link bound 0 0) s.scheduler s.line c
  busy : s.worker.busy = c.held.isSome
  taken : s.worker.taken = c.acknowledged.length + c.held.toList.length
  mostLeft : s.worker.mostLeft ≤ (round devices).length - 1

theorem unfed_make (fresh : link.journal = []) : (Line.make link bound 0 0).Unfed bound := by
  constructor
  · rfl
  · simp [Line.make, Link.recorded, Link.history, fresh]
  · simp [Line.make, Link.recorded, Link.history, fresh]

theorem stepWorker_runs {c : Consumer} (fresh : link.journal = [])
    (runs : s.Runs devices interval text bound link c) :
    (stepWorker s).1.Runs devices interval text bound link (c.step s.line).1 := by
  obtain ⟨run, busy, taken, mostLeft⟩ := runs
  obtain ⟨held, acknowledged⟩ := c
  have next := run.consume
  unfold stepWorker
  cases held with
  | some item =>
    have at_work : s.worker.busy = true := busy
    simp only [at_work, if_true]
    refine ⟨next, rfl, ?_, mostLeft⟩
    simpa [Consumer.step] using taken
  | none =>
    have sees := (next.account (unfed_make fresh)).inRounds.left
    have free : s.worker.busy = false := busy
    unfold Consumer.step at next sees ⊢
    simp only [free, Bool.false_eq_true, if_false] at next sees ⊢
    cases takes : s.line.requests.take? with
    | none => exact ⟨run, busy, taken, mostLeft⟩
    | some pair =>
      obtain ⟨item, channel⟩ := pair
      rw [takes] at next sees
      refine ⟨next, rfl, ?_, ?_⟩
      · simpa using taken
      · have fewer := sees rfl
        simp only at fewer ⊢
        omega

theorem step_runs (fresh : link.journal = []) (task : Task) (s : State)
    (runs : ∃ c, s.Runs devices interval text bound link c) :
    ∃ c, (step task s).1.Runs devices interval text bound link c := by
  obtain ⟨c, runs⟩ := runs
  cases task with
  | scheduler => exact ⟨c, runs.run.step, runs.busy, runs.taken, runs.mostLeft⟩
  | worker => exact ⟨_, stepWorker_runs fresh runs⟩

theorem setNow_runs (now : Binary64) {c : Consumer}
    (runs : s.Runs devices interval text bound link c) :
    State.Runs devices interval text bound link { s with line := s.line.setNow now } c :=
  ⟨runs.run.aside ⟨rfl, rfl, rfl⟩, runs.busy, runs.taken, runs.mostLeft⟩

/-- What the bench ends with is a state of a run. -/
theorem run_runs (fresh : link.journal = []) (efforts : List Number) (limit : Number) :
    ∃ c, (run (make devices interval text) bound efforts limit link).Runs devices interval text
      bound link c := by
  have start : ∃ c, State.Runs devices interval text bound link
      ⟨.make link bound 0 0, make devices interval text, ⟨efforts, 0, 0, false⟩⟩ c :=
    ⟨⟨none, []⟩, .start, rfl, rfl, Nat.zero_le _⟩
  have clock (now : Binary64) (s : State)
      (runs : ∃ c, s.Runs devices interval text bound link c) :
      ∃ c, (tasks.setNow now s).Runs devices interval text bound link c :=
    runs.imp fun _ => setNow_runs now
  have last : ∃ c, State.Runs devices interval text bound link
      ((Loop.start _ [.scheduler, .worker]).run tasks (some (Link.after link.now limit))).shared c :=
    Loop.run_shared (P := fun s => ∃ c, State.Runs devices interval text bound link s c)
      (step_runs fresh) clock start
  unfold run
  simp only
  split
  · exact last
  · obtain ⟨c, runs⟩ := last
    have cancelled := (setNow_runs (Link.after link.now limit) runs).run.cancel
    exact ⟨c, cancelled, runs.busy, runs.taken, runs.mostLeft⟩

end MeterPolling.Scheduler.Bench
