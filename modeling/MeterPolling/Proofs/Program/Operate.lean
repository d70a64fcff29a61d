import MeterPolling.Proofs.Polling.Drain
import MeterPolling.Proofs.Program.Blame
/-!
What the program does by itself is one of the ways in which it can move. The loop picks the order of
the tasks and the moments at which the clock moves, the limit is the moment of an interruption, and
the program comes to its end.
-/
namespace MeterPolling.Program

open Polling (supervised allTasks Told Staffed)

variable {c : Config} {flag : Bool} {start : State} {interrupted : Bool} {mishap : Option Mishap}

theorem Reaches.move {s t : State} (reached : Reaches c flag start s) (move : Moves c flag s t) :
    Reaches c flag start t :=
  Relation.ReflTransGen.tail reached move

/-! ## Polling -/

def Polls (c : Config) (flag : Bool) (start : State) (interrupted : Bool) (p : Polling) : Prop :=
  ∃ mishap, Reaches c flag start ⟨.polling, .tasks p, true, interrupted, mishap⟩

theorem Polls.task {p : Polling} (polls : Polls c flag start interrupted p)
    (task : Option Polling.Task) : Polls c flag start interrupted (supervised.step task p).1 := by
  obtain ⟨mishap, reached⟩ := polls
  cases task with
  | none => exact ⟨_, reached.move .supervises⟩
  | some task => exact ⟨_, reached.move (.task task)⟩

/-- The tasks may run in any order. -/
theorem Polls.tasks {p : Polling} (polls : Polls c flag start interrupted p)
    (order : List (Option Polling.Task)) :
    Polls c flag start interrupted
      (order.foldl (fun p task => (supervised.step task p).1) p) := by
  induction order generalizing p with
  | nil => exact polls
  | cons task order ih => exact ih (polls.task task)

theorem Polls.step {loop next : Loop (Option Polling.Task) Polling}
    (polls : Polls c flag start interrupted loop.shared) (step : Loop.Step supervised loop next) :
    Polls c flag start interrupted next.shared := by
  cases step with
  | run task running =>
    rw [Loop.runTask_shared]
    exact polls.task task
  | pick task rest running ready => exact polls
  | wait deadline running ready earliest =>
    obtain ⟨mishap, reached⟩ := polls
    exact ⟨mishap, reached.move (.waits deadline)⟩

theorem Polls.iterate {loop : Loop (Option Polling.Task) Polling}
    (polls : Polls c flag start interrupted loop.shared) (alarm : Option Binary64) (n : Nat) :
    Polls c flag start interrupted (Loop.iterate supervised alarm n loop).shared :=
  Loop.iterate_steps (P := fun loop => Polls c flag start interrupted loop.shared)
    (fun polls stepped => polls.step (Loop.step_of_step? stepped).2) n polls

/-- The tasks come to rest before the limit, and are not merely left to themselves after very many
steps. -/
def Rests (p : Polling) (limit : Number) : Prop :=
  let alarm := some (Link.after p.line.now limit)
  Loop.step? supervised alarm
    ((Loop.start p (none :: allTasks.map some)).run supervised alarm) = none

/-- Polling for a limited time is over in the end, whether a task fails or it is interrupted. -/
theorem Polls.run {p : Polling} {limit : Number} (polls : Polls c flag start false p)
    (tended : p.Tended p.interrupted) (rests : Rests p limit) :
    (p.run limit).isDone = true ∧
      ∃ interrupted, Polls c flag start interrupted (p.run limit) := by
  have staffed := (Polling.staffed_start tended).iterate (some (Link.after p.line.now limit))
    Loop.stepLimit
  have polls : Polls c flag start false (Loop.iterate supervised
      (some (Link.after p.line.now limit)) Loop.stepLimit
      (.start p (none :: allTasks.map some))).shared := Polls.iterate polls _ Loop.stepLimit
  unfold Rests Loop.run at rests
  unfold Polling.run Loop.run
  simp only at rests ⊢
  generalize Loop.iterate supervised (some (Link.after p.line.now limit)) Loop.stepLimit
    (Loop.start p (none :: allTasks.map some)) = loop at staffed polls rests ⊢
  split
  · rename_i isDone
    exact ⟨isDone, false, polls⟩
  · rename_i unfinished
    have unfinished : loop.shared.isDone = false := Bool.eq_false_iff.mpr unfinished
    have idle := Loop.idle_of_rest unfinished rests
    obtain ⟨mishap, reached⟩ := polls
    -- time passes until the limit, and then the supervisor tells all tasks to end
    have waited := reached.move (.waits (Link.after p.line.now limit))
    obtain ⟨next, told, shared, same⟩ :=
      (staffed.elapse (Link.after p.line.now limit)).interrupt_tells ⟨idle.running, idle.ready⟩
        unfinished (Loop.stepLimit - 2)
    have halted : Polls c flag start true next.shared := by
      rw [shared]
      exact ⟨_, waited.move (.pollCut unfinished)⟩
    have last : (Loop.iterate supervised none Loop.stepLimit
        (Polling.interrupt (Polling.elapse (Link.after p.line.now limit) loop))).shared =
        (Loop.iterate supervised none (Loop.stepLimit - 2) next).shared := by
      rw [← same]
      rfl
    have ended : (Loop.iterate supervised none (Loop.stepLimit - 2) next).shared.isDone = true :=
      told.ends (by decide)
    rw [← last] at ended
    refine ⟨ended, true, ?_⟩
    have polls := halted.iterate none (Loop.stepLimit - 2)
    rw [← last] at polls
    exact polls

/-! ## Scanning -/

def Scans (c : Config) (flag : Bool) (start : State) (interrupted : Bool)
    (s : Solitary Scanner) : Prop :=
  ∃ mishap, Reaches c flag start ⟨.scanning s.state, .alone s.link, true, interrupted, mishap⟩

theorem Scans.step {loop next : Loop Unit (Solitary Scanner)}
    (scans : Scans c flag start interrupted loop.shared)
    (step : Loop.Step (Solitary.tasks Scanner.step Scanner.hasEnded) loop next) :
    Scans c flag start interrupted next.shared := by
  obtain ⟨mishap, reached⟩ := scans
  cases step with
  | run task running =>
    rw [Loop.runTask_shared]
    exact ⟨_, reached.move .scans⟩
  | pick task rest running ready => exact ⟨mishap, reached⟩
  | wait deadline running ready earliest => exact ⟨_, reached.move (.waits deadline)⟩

/-- A scan for a limited time is over in the end, by itself or by an interruption. -/
theorem Scans.run {scanner : Scanner} {link : Link} (limit : Number)
    (scans : Scans c flag start false ⟨scanner, link⟩) :
    (scanner.runFor limit link).1.hasEnded = true ∧
      ∃ interrupted, Scans c flag start interrupted
        ⟨(scanner.runFor limit link).1, (scanner.runFor limit link).2⟩ := by
  have last : Scans c flag start false
      (Solitary.run Scanner.step Scanner.hasEnded (some (Link.after link.now limit))
        ⟨scanner, link⟩) :=
    Loop.iterate_steps (P := fun loop => Scans c flag start false loop.shared)
      (fun scans stepped => scans.step (Loop.step_of_step? stepped).2) Loop.stepLimit scans
  unfold Scanner.runFor
  simp only
  split
  · rename_i ended
    exact ⟨ended, false, last⟩
  · rename_i active
    have active := Bool.eq_false_iff.mpr active
    obtain ⟨mishap, reached⟩ := last
    have waited := reached.move (.waits (Link.after link.now limit))
    refine ⟨?_, true, _, waited.move (.scanCut active)⟩
    simp only [Scanner.hasEnded, Scanner.cancel_cancelled active]

/-! ## From the opening of the port to the end -/

/-- Once the work is over the port is closed. -/
theorem Reaches.close {holder : Holder} {ending : Ending} {mishap : Option Mishap}
    (reached : Reaches c flag start ⟨.leaving ending, holder, true, interrupted, mishap⟩) :
    ∃ t, Reaches c flag start t ∧ t.stage = .ended ending ∧ t.link = holder.link.closePort :=
  ⟨_, reached.move .closes, rfl, by cases holder <;> rfl⟩

/-- What is planned is to scan with a new scanner, or to poll the devices with a new crew, or
nothing. -/
theorem plan_cases (c : Config) (scan : Bool) (link : Link) :
    (∃ f, plan c scan link = .failing f) ∨
    (∃ producers, plan c scan link =
      .scanning (.make producers Scanner.defaultTimeout Scanner.defaultProbeDelay)) ∨
    ∃ devices, c.devices .shipped = .ok devices ∧
      plan c scan link = .polling (crew c devices link) := by
  unfold plan
  split
  · split
    · exact .inl ⟨_, rfl⟩
    · exact .inr (.inl ⟨_, rfl⟩)
  · split
    · exact .inl ⟨_, rfl⟩
    · exact .inl ⟨_, rfl⟩
    · rename_i devices _ found
      exact .inr (.inr ⟨devices, found, rfl⟩)

theorem crew_tended (c : Config) (devices : List (Int × Producer)) (link : Link) :
    (crew c devices link).Tended false :=
  Polling.tended_make _ _ _ _ _

/-- The program does what is planned, and then closes the port. -/
theorem plan_reaches {link : Link} {limit : Number}
    (opened : Reaches c flag start ((plan c flag link).state link))
    (rests : ∀ devices, c.devices .shipped = .ok devices → Rests (crew c devices link) limit) :
    ∃ t, Reaches c flag start t ∧ t.stage = .ended ((plan c flag link).run limit link).2 ∧
      t.link = ((plan c flag link).run limit link).1.closePort := by
  rcases plan_cases c flag link with ⟨f, planned⟩ | ⟨producers, planned⟩ | ⟨devices, found, planned⟩
  · rw [planned] at opened ⊢
    exact opened.close
  · rw [planned, Work.run]
    rw [planned] at opened
    generalize Scanner.make producers Scanner.defaultTimeout Scanner.defaultProbeDelay = scanner
      at opened ⊢
    obtain ⟨ended, interrupted, mishap, reached⟩ := Scans.run limit ⟨_, opened⟩
    exact (reached.move (.scanned ended)).close
  · rw [planned, Work.run]
    rw [planned] at opened
    have polls : Polls c flag start false (crew c devices link) := ⟨_, opened⟩
    obtain ⟨isDone, interrupted, mishap, reached⟩ :=
      polls.run (crew_tended c devices link) (rests devices found)
    generalize (crew c devices link).run limit = last at isDone reached ⊢
    exact (reached.move (.polled isDone)).close

section

variable {o : CommandLine.Options} {s : Surroundings} {r : Run} {preset : Preset} {link : Link}

theorem operate_refused (usable : c.preset = .ok preset) {f : Failure}
    (refused : (firstLink c o s r preset).openPort = (link, .error f)) :
    operate c o s r = (r.after link).conclude (.broken f) := by
  simp only [operate, usable, refused, Run.conclude]

theorem operate_opened (usable : c.preset = .ok preset)
    (opened : (firstLink c o s r preset).openPort = (link, .ok ())) :
    operate c o s r =
      let work := (plan c o.scan link).run s.limit link
      (r.after work.1.closePort).conclude work.2 := by
  simp only [operate, usable, opened]

/-- What the program does by itself it does by moves, and they bring it to its end. -/
theorem operate_reaches (usable : c.preset = .ok preset)
    (rests : ∀ link devices, (firstLink c o s r preset).openPort = (link, .ok ()) →
      c.devices .shipped = .ok devices → Rests (crew c devices link) s.limit) :
    ∃ t ending, Reaches c o.scan (.start (firstLink c o s r preset)) t ∧
      t.stage = .ended ending ∧ operate c o s r = (r.after t.link).conclude ending := by
  cases opening : (firstLink c o s r preset).openPort with
  | mk link result =>
    cases result with
    | error f =>
      exact ⟨_, .broken f, .single (.refused f opening), rfl, operate_refused usable opening⟩
    | ok done =>
      rw [operate_opened usable opening]
      obtain ⟨t, reached, ended, closed⟩ :=
        plan_reaches (.single (.opens opening)) fun devices => rests link devices opening
      exact ⟨t, _, reached, ended, by rw [closed]⟩

end

end MeterPolling.Program
