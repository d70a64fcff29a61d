import MeterPolling.Proofs.Agent.Outcome
import MeterPolling.Proofs.Loop
import MeterPolling.Proofs.Polling.Ending
import MeterPolling.Proofs.Polling.Sound
import MeterPolling.Proofs.Scheduler.Run
/-!
The order of polling from one end to the other. The bus sees the attempts at the requests of one
round after the other, and each request is tried out before the next; the controls and readings are
logged in the order of the requests; and whenever time passes, all there was to log has been logged.
-/
namespace MeterPolling.Polling

def interrupt (loop : Loop (Option Task) Polling) : Loop (Option Task) Polling :=
  Loop.wake supervised { loop with shared := { loop.shared with interrupted := true } }

def elapse (now : Binary64) (loop : Loop (Option Task) Polling) : Loop (Option Task) Polling :=
  { loop with shared := supervised.setNow now loop.shared }

/-- The loops that polling may come to. It may be interrupted at any moment; but while there is
something to do no time passes. -/
inductive Reached (p₀ : Polling) : Loop (Option Task) Polling → Prop where
  | start : Reached p₀ (.start p₀ (none :: allTasks.map some))
  | step (alarm : Option Binary64) : Reached p₀ loop →
      Loop.step? supervised alarm loop = some next → Reached p₀ next
  | interrupt : Reached p₀ loop → Reached p₀ (interrupt loop)
  | elapse (now : Binary64) : Reached p₀ loop → loop.Idle → loop.shared.isDone = false →
      Reached p₀ (elapse now loop)

variable {settings : Agent.Settings} {devices : List (Int × Producer)} {line₀ : Line}
  {loop next : Loop (Option Task) Polling} {p₀ : Polling}

theorem Reached.iterate (reached : Reached p₀ loop) (alarm : Option Binary64) (n : Nat) :
    Reached p₀ (Loop.iterate supervised alarm n loop) :=
  Loop.iterate_steps (P := Reached p₀) (fun reached stepped => reached.step alarm stepped) n reached

/-- Polling for a limited time gives such a loop, when the tasks come to rest before the limit. -/
theorem run_reached (p : Polling) (limit : Number)
    (rests : Loop.step? supervised (some (Link.after p.line.now limit))
      ((Loop.start p (none :: allTasks.map some)).run supervised
        (some (Link.after p.line.now limit))) = none) :
    ∃ loop, Reached p loop ∧ loop.shared = p.run limit := by
  have reached : Reached p ((Loop.start p (none :: allTasks.map some)).run supervised
      (some (Link.after p.line.now limit))) := Reached.start.iterate _ Loop.stepLimit
  unfold Polling.run
  simp only
  split
  · exact ⟨_, reached, rfl⟩
  · rename_i unfinished
    have unfinished := Bool.eq_false_iff.mpr unfinished
    have elapsed := reached.elapse (Link.after p.line.now limit) (Loop.idle_of_rest unfinished rests)
      unfinished
    exact ⟨_, elapsed.interrupt.iterate none Loop.stepLimit, rfl⟩

structure Ordered (settings : Agent.Settings) (devices : List (Int × Producer)) (line₀ : Line)
    (loop : Loop (Option Task) Polling) : Prop where
  sound : Sound settings devices line₀ loop.shared
  settled : loop.Settled supervised
  present : ∀ task, loop.Present task ∨ Gone task loop.shared

theorem Ordered.step (ordered : Ordered settings devices line₀ loop)
    (step : Loop.Step supervised loop next) : Ordered settings devices line₀ next where
  sound := step.shared (P := Sound settings devices line₀) (fun task _ sound => sound.step task)
    (fun now _ sound => sound.setNow now) ordered.sound
  settled := step.settled supervised_timeless ordered.settled
  present task :=
    step.present supervised_ends supervised_stays supervised_clock (ordered.present task)

theorem Ordered.interrupt (ordered : Ordered settings devices line₀ loop) :
    Ordered settings devices line₀ (interrupt loop) where
  sound := { ordered.sound with }
  settled := Loop.wake_settled supervised _
  present task := (ordered.present task).imp (Loop.wake_present supervised) fun gone => by
    cases task with
    | none => exact gone
    | some task => cases task <;> exact gone

theorem Ordered.elapse (ordered : Ordered settings devices line₀ loop) (now : Binary64) :
    Ordered settings devices line₀ (elapse now loop) where
  sound := ordered.sound.setNow now
  settled p member := (supervised_timeless p.task now loop.shared).trans (ordered.settled p member)
  present task := (ordered.present task).imp_right (supervised_clock now task loop.shared)

theorem Reached.ordered (sound : Sound settings devices line₀ p₀) (reached : Reached p₀ loop) :
    Ordered settings devices line₀ loop := by
  induction reached with
  | start =>
    refine ⟨sound, fun p member => absurd member (by simp [Loop.start]), fun task => ?_⟩
    refine .inl (.inr (.inl ?_))
    cases task with
    | none => exact List.mem_cons_self
    | some task => cases task <;> simp [Loop.start, allTasks]
  | step alarm _ stepped ih => exact ih.step (Loop.step_of_step? stepped).2
  | interrupt _ ih => exact ih.interrupt
  | elapse now _ _ _ ih => exact ih.elapse now

structure Logged (link : Link) : Prop where
  readings : link.recorded Event.loggedReading? = link.recorded Event.reading?
  controls : link.recorded Event.loggedControl? = link.recorded Event.control?

/-- Nobody is told to end and left with nothing to do. -/
theorem Ordered.untold (ordered : Ordered settings devices line₀ loop) (idle : loop.Idle)
    (unfinished : loop.shared.isDone = false) : loop.shared.cancelled = false := by
  cases told : loop.shared.cancelled with
  | false => rfl
  | true =>
    -- once they are told to end all tasks are awake, so that an idle loop has none left
    have all_ended : loop.shared.allEnded = true := by
      rw [allEnded, List.all_eq_true]
      intro task _
      rcases ordered.present (some task) with present | gone
      · have asleep := Loop.idle_asleep ordered.settled idle present
        simp [supervised, taskAwake, told] at asleep
      · exact gone
    rcases ordered.present none with present | done
    · have asleep := Loop.idle_asleep ordered.settled idle present
      rcases ordered.sound.cancelled told with draining | done
      · simp [supervised, supervisorAwake, draining, all_ended] at asleep
      · simp [isDone, done] at unfinished
    · have done : loop.shared.supervisor = .done := done
      simp [isDone, done] at unfinished

/-- When nothing is left to do, nothing is left to log. -/
theorem Ordered.logged (ordered : Ordered settings devices line₀ loop) (idle : loop.Idle)
    (unfinished : loop.shared.isDone = false) : Logged loop.shared.line.link := by
  have untold := ordered.untold idle unfinished
  have active : ¬ (loop.shared.readingsReporterEnded = true ∨
      loop.shared.controlsReporterEnded = true) := by
    intro ended
    rw [ordered.sound.reporters ended] at untold
    cases untold
  have readings : loop.shared.line.readings.items = [] := by
    rcases ordered.present (some .readingsReporter) with present | gone
    · have asleep := Loop.idle_asleep ordered.settled idle present
      simpa [supervised, taskAwake, untold] using asleep
    · exact absurd (.inl gone) active
  have controls : loop.shared.line.controls.items = [] := by
    rcases ordered.present (some .controlsReporter) with present | gone
    · have asleep := Loop.idle_asleep ordered.settled idle present
      simpa [supervised, taskAwake, untold] using asleep
    · exact absurd (.inr gone) active
  constructor
  · rw [← ordered.sound.carried.readings, readings, List.append_nil]
  · rw [← ordered.sound.carried.controls, controls, List.append_nil]

/-- What polling shows: the cases of the requests treated so far, in order, of which the first
`closed` are done with. -/
structure InOrder (bus : Bus) (attempts : Nat) (devices : List (Int × Producer)) (link : Link)
    (cases : List Case) (closed : Nat) : Prop where
  /-- No request of the rounds is skipped. -/
  requests : ∃ k, cases.map Case.request <+: Scheduler.rounds devices k
  latest : closed = cases.length ∨ closed + 1 = cases.length
  /-- Each is tried until something other than a fault comes of it, after all those before it. -/
  treated : ∀ before c after, cases = before ++ c :: after →
    c = bus.treat attempts (Case.allAsked before).reverse c.request
  attempts : ∀ c ∈ cases, c.calls ≤ attempts ∧
    (0 < attempts → c.request.refusal? = none → 0 < c.calls)
  calls : Case.allAsked (cases.take closed) <+: link.recorded Event.call? ∧
    link.recorded Event.call? <+: Case.allAsked cases
  /-- The control that is logged at one place concerns the request at that place. -/
  controls : ∀ (i : Nat) (control : Control),
    (link.recorded Event.loggedControl?)[i]? = some control →
    ∃ c : Case, cases[i]? = some c ∧ c.control? = some control ∧ control.device = c.request.device
  results : ∃ n, (n = closed ∨ n = closed + 1) ∧
    (link.recorded Event.reading?).map Reading.result = (cases.take n).filterMap Case.result?
  readings : link.recorded Event.loggedReading? <+: link.recorded Event.reading?

theorem control_device {c : Case} {control : Control} (found : c.control? = some control) :
    control.device = c.request.device := by
  unfold Case.control? at found
  split at found <;> cases found <;> rfl

theorem Sound.requests {p : Polling} (sound : Sound settings devices line₀ p)
    {taken items : List (Option Request)}
    (split : (p.line.link.recorded Event.queued?).map some = taken ++ items) :
    ∃ k, taken.reduceOption <+: Scheduler.rounds devices k := by
  obtain ⟨k, placed⟩ := sound.placed
  obtain ⟨done, part, queued⟩ := placed.part
  have all : p.line.link.recorded Event.queued? = taken.reduceOption ++ items.reduceOption := by
    have reduced := congrArg List.reduceOption split
    simpa [List.reduceOption, List.filterMap_append, List.filterMap_map] using reduced
  have taken_part : taken.reduceOption <+: p.line.link.recorded Event.queued? :=
    all ▸ List.prefix_append _ _
  refine ⟨k + 1, taken_part.trans ?_⟩
  rw [queued, Scheduler.rounds_succ]
  exact (List.prefix_append_right_inj _).mpr part

/-- A control that was logged is the one of the request at its place. -/
theorem logged_control {closed : List Case} {logged put : List Control}
    (controls : closed.map Case.control? = put.map some) (part : logged <+: put) {i : Nat}
    {control : Control} (found : logged[i]? = some control) :
    ∃ c, closed[i]? = some c ∧ c.control? = some control := by
  obtain ⟨rest, rfl⟩ := part
  have within : i < logged.length := (List.getElem?_eq_some_iff.mp found).1
  have there : (closed.map Case.control?)[i]? = some (some control) := by
    rw [controls, List.getElem?_map, List.getElem?_append_left within, found]
    rfl
  rw [List.getElem?_map] at there
  exact Option.map_eq_some_iff.mp there

theorem Sound.inOrder {p : Polling} {link : Link} {requests readings controls : Nat}
    (unused : link.Unused)
    (sound : Sound settings devices (.make link requests readings controls) p) :
    ∃ cases closed, InOrder link.bus settings.attempts devices p.line.link cases closed := by
  obtain ⟨_, _, taken, split, stands⟩ := sound.fed.account unused
  obtain ⟨k, part⟩ := sound.requests split
  obtain ⟨closed, current, visible, progress⟩ := stands.progress
  have outcomes := progress.outcomes rfl
  have logged : p.line.link.recorded Event.loggedControl? <+: p.line.link.recorded Event.control? :=
    sound.carried.controls ▸ List.prefix_append _ _
  refine ⟨closed ++ current, closed.length, ?_⟩
  constructor
  case requests => exact ⟨k, outcomes.each ▸ part⟩
  case latest =>
    have count := congrArg List.length outcomes.each
    rw [List.length_map] at count
    rw [count]
    exact outcomes.latest
  case treated =>
    intro before c after cases
    have treated := Bus.course_treated (progress.course.trans cases)
    rwa [List.append_nil] at treated
  case attempts =>
    intro c member
    obtain ⟨before, after, cases⟩ := List.append_of_mem member
    have treated := Bus.course_treated (progress.course.trans cases)
    rw [treated]
    refine ⟨Bus.treat_calls_le _ _ _ _, fun tries accepted => ?_⟩
    rw [Bus.treat_request] at accepted
    exact Bus.made_le_calls accepted tries (by simp)
  case calls => exact outcomes.calls
  case controls =>
    intro i control found
    obtain ⟨c, place, reported⟩ := logged_control outcomes.controls logged found
    rw [List.getElem?_take] at place
    split at place
    · exact ⟨c, place, reported, control_device reported⟩
    · cases place
  case results => exact outcomes.results
  case readings => exact sound.carried.readings ▸ List.prefix_append _ _

/-- At every moment of polling, whatever the order and the pace of its tasks: the bus has seen the
requests of the rounds tried one after the other, and what was logged is in their order. Whenever
time passes, or there is nothing left to do, everything has been logged. -/
theorem Reached.polls_in_order {link : Link} {interval : Number} {text : String}
    {requests readings controls : Nat} (untouched : link.Untouched)
    (reached : Reached (make (.make link requests readings controls) (.make settings)
      (.make devices interval text)) loop) :
    (∃ cases closed,
      InOrder link.bus settings.attempts devices loop.shared.line.link cases closed) ∧
    (loop.Idle → loop.shared.isDone = false → Logged loop.shared.line.link) ∧
    ∀ alarm next, Loop.step? supervised alarm loop = some next →
      next.shared.line.now ≠ loop.shared.line.now → Logged loop.shared.line.link := by
  have sound := sound_make untouched settings devices interval text requests readings controls
  have ordered := reached.ordered sound
  refine ⟨ordered.sound.inOrder untouched.toUnused, ordered.logged, ?_⟩
  intro alarm next stepped moved
  obtain ⟨unfinished, step⟩ := Loop.step_of_step? stepped
  exact ordered.logged (step.idle supervised_still moved) unfinished

/-- Two meters that answer every second call, both read and logged when the first pause of the
scheduler begins. -/
theorem hesitant_pair_polls_in_order :
    let link := (Agent.hesitantLine none 0).link
    let start : Polling := make (.make link 0 0 0) (.make .default) (.make Scheduler.pair 5 "5")
    let loop := Loop.iterate supervised none 58 (.start start (none :: allTasks.map some))
    link.Untouched ∧ Reached start loop ∧ loop.running = none ∧ loop.ready = [] ∧
      loop.shared.isDone = false ∧
      (loop.shared.line.link.recorded Event.loggedControl?).length = 2 ∧
      (∃ cases closed, InOrder link.bus Agent.Settings.default.attempts Scheduler.pair
        loop.shared.line.link cases closed) ∧
      Logged loop.shared.line.link := by
  intro link start loop
  have untouched : link.Untouched := ⟨Agent.hesitantLine_unused none 0, rfl, rfl, rfl, rfl⟩
  have reached : Reached start loop := Reached.start.iterate none 58
  have running : loop.running = none := by decide +kernel
  have ready : loop.ready = [] := by decide +kernel
  have unfinished : loop.shared.isDone = false := by decide +kernel
  have two : (loop.shared.line.link.recorded Event.loggedControl?).length = 2 := by decide +kernel
  obtain ⟨order, logged, -⟩ := Reached.polls_in_order untouched reached
  exact ⟨untouched, reached, running, ready, unfinished, two, order,
    logged ⟨running, ready⟩ unfinished⟩

end MeterPolling.Polling
