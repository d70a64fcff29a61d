import MeterPolling.Proofs.Polling.Tended
import MeterPolling.Proofs.Program.Port
import Mathlib.Logic.Relation
/-!
The program at work, from the opening of the port to its end, one move at a time. The tasks make
their moves in any order, before and after the program has left them, and an interruption may come
between any two moves; so whatever holds after any moves holds of every run. Beside the program
itself it is kept whether the port was opened, whether there was an interruption, and what went
wrong first.
-/
namespace MeterPolling

/-- The failure with which a scan ended, or is bound to end. -/
def Scanner.failure? (s : Scanner) : Option Failure :=
  match s.stage with
  | .failed f | .probing _ (.failed f) => some f
  | _ => none

namespace Program

inductive Mishap where
  | failure (failure : Failure)
  | interruption
deriving DecidableEq

inductive Stage where
  | opening
  | scanning (scanner : Scanner)
  | polling
  /-- The work is over, and the port is to be closed. -/
  | leaving (ending : Ending)
  | ended (ending : Ending)

inductive Holder where
  | alone (link : Link)
  | tasks (p : Polling)

namespace Holder

def link : Holder → Link
  | .alone link => link
  | .tasks p => p.line.link

def withLink (link : Link) : Holder → Holder
  | .alone _ => .alone link
  | .tasks p => .tasks { p with line := { p.line with link := link } }

def setNow (now : Binary64) (h : Holder) : Holder := h.withLink { h.link with now := now }

def closePort (h : Holder) : Holder := h.withLink h.link.closePort

/-- Every task has ended, where there are any. -/
def Finished : Holder → Prop
  | .alone _ => True
  | .tasks p => ∀ task, p.hasEnded task = true

end Holder

structure State where
  stage : Stage
  holder : Holder
  /-- Whether the port was opened. -/
  opened : Bool
  /-- Whether the program was interrupted. -/
  interrupted : Bool
  /-- What went wrong first. -/
  mishap : Option Mishap

def State.link (s : State) : Link := s.holder.link

def State.start (link : Link) : State := ⟨.opening, .alone link, false, false, none⟩

/-- The program about to do its work on an open port. -/
def Work.state (link : Link) : Work → State
  | .failing f => ⟨.leaving (.broken f), .alone link, true, false, some (.failure f)⟩
  | .scanning scanner => ⟨.scanning scanner, .alone link, true, false, none⟩
  | .polling p => ⟨.polling, .tasks p, true, false, none⟩

inductive Moves (c : Config) (scan : Bool) : State → State → Prop where
  | opens : link.openPort = (next, .ok ()) →
      Moves c scan ⟨.opening, .alone link, false, false, none⟩ ((plan c scan next).state next)
  | refused (f : Failure) : link.openPort = (next, .error f) →
      Moves c scan ⟨.opening, .alone link, false, false, none⟩
        ⟨.ended (.broken f), .alone next, false, false, some (.failure f)⟩
  /-- The opening is interrupted while the client connects, and nothing is closed. -/
  | openingCut : (∀ e, link.bus.opening ≠ .constructionRaises e) →
      Moves c scan ⟨.opening, .alone link, false, false, none⟩
        ⟨.ended .cut, .alone link.connecting, false, true, some .interruption⟩
  | scans : Moves c scan ⟨.scanning scanner, .alone link, opened, interrupted, mishap⟩
        ⟨.scanning (scanner.step link).1, .alone (scanner.step link).2.1, opened, interrupted,
          mishap.or ((scanner.step link).1.failure?.map .failure)⟩
  | scanCut : scanner.hasEnded = false →
      Moves c scan ⟨.scanning scanner, .alone link, opened, interrupted, mishap⟩
        ⟨.scanning (scanner.cancel link).1, .alone (scanner.cancel link).2, opened, true,
          mishap.or (some .interruption)⟩
  | scanned : scanner.hasEnded = true →
      Moves c scan ⟨.scanning scanner, .alone link, opened, interrupted, mishap⟩
        ⟨.leaving (scanEnding scanner), .alone link, opened, interrupted, mishap⟩
  /-- A task makes a step, whatever the program is at. -/
  | task (task : Polling.Task) : Moves c scan ⟨stage, .tasks p, opened, interrupted, mishap⟩
        ⟨stage, .tasks (p.stepTask task).1, opened, interrupted,
          mishap.or (((p.stepTask task).1.failed? task).map .failure)⟩
  /-- An agent that is told to end before it ran for the first time ends without a word. -/
  | dropped : p.cancelled = true → p.agent.stage = .idle →
      Moves c scan ⟨stage, .tasks p, opened, interrupted, mishap⟩
        ⟨stage, .tasks p.dropAgent, opened, interrupted, mishap⟩
  | supervises : Moves c scan ⟨.polling, .tasks p, opened, interrupted, mishap⟩
        ⟨.polling, .tasks p.stepSupervisor.1, opened, interrupted, mishap⟩
  /-- An interruption reaches all tasks at once. -/
  | pollCut : p.isDone = false → Moves c scan ⟨.polling, .tasks p, opened, interrupted, mishap⟩
        ⟨.polling, .tasks p.halt, opened, true, mishap.or (some .interruption)⟩
  /-- After a failure it may find the program about to tell them. -/
  | pollCutLate : p.isDone = false → p.failure.isSome = true →
      Moves c scan ⟨.polling, .tasks p, opened, interrupted, mishap⟩
        ⟨.polling, .tasks { p with interrupted := true }, opened, true,
          mishap.or (some .interruption)⟩
  | polled : p.isDone = true → Moves c scan ⟨.polling, .tasks p, opened, interrupted, mishap⟩
        ⟨.leaving (pollEnding p), .tasks p, opened, interrupted, mishap⟩
  /-- An interruption after a failure may take the place of the failure. -/
  | overtaken : p.isDone = true → interrupted = true →
      Moves c scan ⟨.polling, .tasks p, opened, interrupted, mishap⟩
        ⟨.leaving .cut, .tasks p, opened, interrupted, mishap⟩
  | waits (now : Binary64) : Moves c scan ⟨stage, holder, opened, interrupted, mishap⟩
        ⟨stage, holder.setNow now, opened, interrupted, mishap⟩
  | closes : Moves c scan ⟨.leaving ending, holder, opened, interrupted, mishap⟩
        ⟨.ended ending, holder.closePort, opened, interrupted, mishap⟩

def Reaches (c : Config) (scan : Bool) : State → State → Prop :=
  Relation.ReflTransGen (Moves c scan)

end Program

end MeterPolling
