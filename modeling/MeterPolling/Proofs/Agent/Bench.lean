import MeterPolling.Agent.Bench
import MeterPolling.Proofs.Agent.Run
import MeterPolling.Proofs.Loop
/-!
The bench runs its agent as any other: whatever the order in which its tasks come to run, each of
its states is one of a run, in which the items put are those that have left the feed.
-/
namespace MeterPolling.Agent.Bench

def Feed.item? : Feed → Option (Option Request)
  | .put request => some request
  | .pause _ => none

def items (feed : List Feed) : List (Option Request) := feed.filterMap Feed.item?

/-- The agent is in a run, with the items put that have left the feed. -/
def Runs (setup : Setup) (link : Link) (agent : Agent) (line : Line) (feed : List Feed) : Prop :=
  ∃ puts, Run (make setup.settings) (.make link 0 setup.readingsBound setup.controlsBound) puts
    agent line ∧ puts ++ items feed = items setup.feed

variable {setup : Setup} {link : Link} {agent : Agent} {line next : Line} {feed : List Feed}

theorem Runs.aside (runs : Runs setup link agent line feed) (aside : line.Aside next) :
    Runs setup link agent next feed := by
  obtain ⟨puts, run, fed⟩ := runs
  exact ⟨puts, run.aside aside, fed⟩

theorem Runs.cancel (runs : Runs setup link agent line feed) :
    Runs setup link (agent.cancel line).1 (agent.cancel line).2 feed := by
  obtain ⟨puts, run, fed⟩ := runs
  exact ⟨puts, run.cancel, fed⟩

theorem Runs.putLeading (runs : Runs setup link agent line feed) :
    Runs setup link agent (putLeading line feed).1 (putLeading line feed).2 := by
  induction feed generalizing line with
  | nil => exact runs
  | cons item feed ih =>
    cases item with
    | pause delay => exact runs
    | put request =>
      obtain ⟨puts, run, fed⟩ := runs
      exact ih ⟨puts ++ [request], run.put request, by rw [List.append_assoc]; exact fed⟩

theorem aside_channels (line : Line) (readings : Channel Reading) (controls : Channel Control) :
    line.Aside { line with readings := readings, controls := controls } :=
  ⟨rfl, rfl, rfl, rfl, rfl⟩

theorem aside_setNow (line : Line) (now : Binary64) : line.Aside (line.setNow now) :=
  ⟨rfl, rfl, rfl, rfl, rfl⟩

def State.Runs (setup : Setup) (link : Link) (s : State) : Prop :=
  Bench.Runs setup link s.agent s.line s.feed

/-- Every task of the bench is the agent, or stands around it. -/
theorem step_runs (task : Task) (s : State) (runs : s.Runs setup link) :
    (step setup task s).1.Runs setup link := by
  cases task with
  | feeder =>
    have fed := runs.putLeading
    unfold step
    generalize putLeading s.line s.feed = led at fed ⊢
    obtain ⟨line, feed⟩ := led
    simp only
    split
    · rename_i leading
      cases leading
      exact fed
    · rename_i leading
      cases leading
      exact fed
  | agent =>
    obtain ⟨puts, run, fed⟩ := runs
    exact ⟨puts, run.step, fed⟩
  | readingsReader => exact runs.aside (aside_channels s.line _ s.line.controls)
  | controlsReader => exact runs.aside (aside_channels s.line s.line.readings _)
  | observer =>
    unfold step
    simp only
    split <;> exact runs

theorem initial_runs (setup : Setup) (link : Link) : (initial setup link).Runs setup link := by
  have start : Bench.Runs setup link (make setup.settings)
      (.make link 0 setup.readingsBound setup.controlsBound) setup.feed := ⟨[], .start, rfl⟩
  exact start.putLeading

theorem iterate_runs (setup : Setup) (link : Link) (order : List Task) (alarm : Option Binary64)
    (n : Nat) :
    (Loop.iterate (tasks setup) alarm n
      (.start (initial setup link) order)).shared.Runs setup link := by
  have clock (now : Binary64) (s : State) (runs : s.Runs setup link) :
      ((tasks setup).setNow now s).Runs setup link := runs.aside (aside_setNow s.line now)
  have start : (Loop.start (initial setup link) order).shared.Runs setup link :=
    initial_runs setup link
  exact Loop.iterate_steps (P := fun loop => loop.shared.Runs setup link)
    (fun holds stepped => (Loop.step_of_step? stepped).2.shared step_runs clock holds) n start

/-- What the bench ends with is a state of a run. -/
theorem run_runs (setup : Setup) (limit : Number) (link : Link) :
    (run setup limit link).Runs setup link := by
  have last := iterate_runs setup link [.feeder, .readingsReader, .controlsReader, .agent, .observer]
    (some (Link.after link.now limit)) Loop.stepLimit
  unfold run
  simp only
  split
  · exact last
  · exact (last.aside (aside_setNow _ _)).cancel

end MeterPolling.Agent.Bench
