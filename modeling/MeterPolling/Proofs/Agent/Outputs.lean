import MeterPolling.Proofs.Agent.Effect
import MeterPolling.Proofs.Agent.Run
/-!
What an agent puts in its outputs, as seen there: in each move it is what comes to stand behind the
items of a channel. That is what is on record as delivered and as reported, however much readers take
from the channels between the moves.
-/
namespace MeterPolling

structure Outputs where
  readings : List Reading
  controls : List Control
deriving DecidableEq

namespace Outputs

def none : Outputs := ⟨[], []⟩

/-- Adds what comes behind the items of the channels from one line to the next. -/
def extend (outputs : Outputs) (line next : Line) : Outputs where
  readings := outputs.readings ++ next.readings.items.drop line.readings.items.length
  controls := outputs.controls ++ next.controls.items.drop line.controls.items.length

end Outputs

def Link.outputs (link : Link) : Outputs :=
  ⟨link.recorded Event.reading?, link.recorded Event.control?⟩

/-- What is put comes behind what was there, and the same is put on record. -/
structure Line.Puts (line next : Line) (more : Outputs) : Prop where
  readings : next.readings.items = line.readings.items ++ more.readings
  controls : next.controls.items = line.controls.items ++ more.controls
  delivered : next.link.recorded Event.reading? =
    line.link.recorded Event.reading? ++ more.readings
  reported : next.link.recorded Event.control? =
    line.link.recorded Event.control? ++ more.controls

/-! ## One move -/

namespace Line

variable {line next : Line} {more : Outputs}

theorem Quiet.puts (quiet : line.Quiet next) : line.Puts next .none := by
  constructor
  · rw [quiet.readings]
    exact (List.append_nil _).symm
  · rw [quiet.controls]
    exact (List.append_nil _).symm
  · rw [quiet.link.readings]
    exact (List.append_nil _).symm
  · rw [quiet.link.controls]
    exact (List.append_nil _).symm

theorem deliver_puts (line : Line) (reading : Reading) :
    line.Puts (line.deliver reading) ⟨[reading], []⟩ := by
  have found : (Event.delivered reading).reading? = some reading := rfl
  refine ⟨rfl, (List.append_nil _).symm, line.link.recorded_some found, ?_⟩
  exact (Link.recorded_none line.link rfl).trans (List.append_nil _).symm

theorem report_puts (line : Line) (control : Control) :
    line.Puts (line.report control) ⟨[], [control]⟩ := by
  have found : (Event.reported control).control? = some control := rfl
  refine ⟨(List.append_nil _).symm, rfl, ?_, line.link.recorded_some found⟩
  exact (Link.recorded_none line.link rfl).trans (List.append_nil _).symm

/-- What stands on record after a move is what stood there and what was seen of the move. -/
theorem Puts.extend (puts : line.Puts next more) :
    next.link.outputs = line.link.outputs.extend line next := by
  rw [Link.outputs, puts.delivered, puts.reported, Outputs.extend, puts.readings, puts.controls,
    List.drop_left, List.drop_left]
  rfl

end Line

namespace Agent

theorem step_puts (a : Agent) (line : Line) : ∃ more, line.Puts (a.step line).2.1 more := by
  rcases a.step_effect line with quiet | ⟨reading, _, put⟩ | ⟨control, _, put⟩
  · exact ⟨.none, quiet.puts⟩
  · rw [put]
    exact ⟨_, line.deliver_puts reading⟩
  · rw [put]
    have puts := line.report_puts control
    exact ⟨_, puts.readings, puts.controls, puts.delivered, puts.reported⟩

theorem cancel_puts (a : Agent) (line : Line) : line.Puts (a.cancel line).2 .none :=
  (a.cancel_quiet line).puts

/-! ## Runs -/

/-- A run with the items put meanwhile, and with what the agent put in the outputs. -/
inductive Emitted (a₀ : Agent) (line₀ : Line) :
    List (Option Request) → Outputs → Agent → Line → Prop where
  | start : Emitted a₀ line₀ [] .none a₀ line₀
  | step : Emitted a₀ line₀ puts outputs a line →
      Emitted a₀ line₀ puts (outputs.extend line (a.step line).2.1) (a.step line).1
        (a.step line).2.1
  | cancel : Emitted a₀ line₀ puts outputs a line →
      Emitted a₀ line₀ puts (outputs.extend line (a.cancel line).2) (a.cancel line).1
        (a.cancel line).2
  | put (item : Option Request) : Emitted a₀ line₀ puts outputs a line →
      Emitted a₀ line₀ (puts ++ [item]) outputs a { line with requests := line.requests.put item }
  | aside : Emitted a₀ line₀ puts outputs a line → line.Aside line' →
      Emitted a₀ line₀ puts outputs a line'

variable {a₀ a : Agent} {line₀ line : Line} {puts : List (Option Request)} {outputs : Outputs}

theorem Emitted.run (emitted : Emitted a₀ line₀ puts outputs a line) : Run a₀ line₀ puts a line := by
  induction emitted with
  | start => exact .start
  | step _ ih => exact ih.step
  | cancel _ ih => exact ih.cancel
  | put item _ ih => exact ih.put item
  | aside _ aside ih => exact ih.aside aside

/-- Of every run it can be told what was put. -/
theorem Run.emitted (run : Run a₀ line₀ puts a line) :
    ∃ outputs, Emitted a₀ line₀ puts outputs a line := by
  induction run with
  | start => exact ⟨.none, .start⟩
  | step _ ih =>
    obtain ⟨outputs, emitted⟩ := ih
    exact ⟨_, emitted.step⟩
  | cancel _ ih =>
    obtain ⟨outputs, emitted⟩ := ih
    exact ⟨_, emitted.cancel⟩
  | put item _ ih =>
    obtain ⟨outputs, emitted⟩ := ih
    exact ⟨outputs, emitted.put item⟩
  | aside _ aside ih =>
    obtain ⟨outputs, emitted⟩ := ih
    exact ⟨outputs, emitted.aside aside⟩

/-- At every moment of a run, what is on record as put is what was put. -/
theorem Emitted.recorded (unused : line₀.link.Unused)
    (emitted : Emitted a₀ line₀ puts outputs a line) : line.link.outputs = outputs := by
  induction emitted with
  | start => rw [Link.outputs, unused.unread, unused.unreported, Outputs.none]
  | @step _ _ a line _ ih =>
    obtain ⟨_, puts⟩ := a.step_puts line
    rw [puts.extend, ih]
  | @cancel _ _ a line _ ih => rw [(a.cancel_puts line).extend, ih]
  | put item _ ih => exact ih
  | aside _ aside ih => rw [Link.outputs, aside.readings, aside.controls, ← ih, Link.outputs]

end Agent

end MeterPolling
