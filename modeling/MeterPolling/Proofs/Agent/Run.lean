import MeterPolling.Proofs.Agent.Standing
/-!
Runs of an agent among others. Between any two of its steps requests may be put, the clock may move,
readers may take what they like, anything may be noted, and the agent may be cancelled. No order and
no pace is assumed, so every schedule of tasks around an agent gives such a run.
-/
namespace MeterPolling

/-- Nothing that concerns the agent's work differs between two lines: neither the requests nor what
was asked, counted, delivered and reported. The clock, the output channels and the notices may. -/
structure Line.Aside (line line' : Line) : Prop where
  requests : line'.requests = line.requests
  bus : line'.link.bus = line.link.bus
  session : line'.link.session = line.link.session
  ledger : line'.link.ledger = line.link.ledger
  readings : line'.link.recorded Event.reading? = line.link.recorded Event.reading?

theorem Line.Aside.controls {line line' : Line} (aside : line.Aside line') :
    line'.link.recorded Event.control? = line.link.recorded Event.control? := by
  rw [← Link.deeds_controls, ← Link.deeds_controls]
  exact congrArg _ (congrArg Ledger.deeds aside.ledger)

def Link.timeout (link : Link) : Number :=
  (link.session.client.map (·.effectiveTimeout)).getD link.session.timeout

structure Link.Unused (link : Link) : Prop where
  client : ∃ client, link.session.client = some client ∧ client.calls = []
  ledger : link.ledger = ⟨[], .fresh⟩

theorem Link.Unused.serves {link : Link} (unused : link.Unused) :
    link.Serves link.bus link.timeout := by
  obtain ⟨⟨client, present, calls⟩, ledger⟩ := unused
  refine ⟨rfl, client, present, by simp [Link.timeout, present], ?_⟩
  rw [calls, Link.earlier_eq, ledger]
  rfl

theorem Link.Unused.unread {link : Link} (unused : link.Unused) :
    link.recorded Event.reading? = [] := by
  have deeds : link.deeds = [] := congrArg Ledger.deeds unused.ledger
  have results := link.deeds_results
  rw [deeds] at results
  exact List.map_eq_nil_iff.mp results.symm

theorem Link.Unused.unreported {link : Link} (unused : link.Unused) :
    link.recorded Event.control? = [] := by
  have deeds : link.deeds = [] := congrArg Ledger.deeds unused.ledger
  have controls := link.deeds_controls
  rw [deeds] at controls
  exact controls.symm

theorem Session.openPort_client {s : Session} {bus : Bus}
    (opened : (s.openPort bus).2 = .ok ()) :
    ∃ client, (s.openPort bus).1.client = some client ∧ client.calls = [] := by
  unfold openPort at opened ⊢
  simp only at opened ⊢
  split at opened
  · cases opened
  · cases opened
  · cases opened
  · exact ⟨_, rfl, rfl⟩

theorem Link.openPort_unused {link : Link} (fresh : link.ledger = ⟨[], .fresh⟩)
    (opened : link.openPort.2 = .ok ()) : link.openPort.1.Unused := by
  unfold openPort at opened ⊢
  generalize begun : (if link.session.verbose then
    link.note (.connecting link.session.port link.session.preset) else link) = next at opened ⊢
  have still : next.ledger = ⟨[], .fresh⟩ := by
    rw [← begun]
    split
    · exact (note_ledger _ _).trans fresh
    · exact fresh
  obtain ⟨client, present, calls⟩ := Session.openPort_client opened
  simp only at opened ⊢
  rw [opened]
  exact ⟨⟨client, present, calls⟩, (note_ledger _ _).trans still⟩

theorem Line.Aside.serves {line line' : Line} {bus : Bus} {timeout : Number}
    (aside : line.Aside line') (serves : line.link.Serves bus timeout) :
    line'.link.Serves bus timeout := by
  obtain ⟨rfl, client, present, waits, calls⟩ := serves
  refine ⟨aside.bus, client, aside.session ▸ present, waits, ?_⟩
  rw [calls, Link.earlier_eq, Link.earlier_eq, aside.ledger]

namespace Agent

/-- A run of an agent from a first state to a later one, with the items put meanwhile, in order. -/
inductive Run (a₀ : Agent) (line₀ : Line) : List (Option Request) → Agent → Line → Prop where
  | start : Run a₀ line₀ [] a₀ line₀
  | step : Run a₀ line₀ puts a line → Run a₀ line₀ puts (a.step line).1 (a.step line).2.1
  | cancel : Run a₀ line₀ puts a line → Run a₀ line₀ puts (a.cancel line).1 (a.cancel line).2
  | put (item : Option Request) : Run a₀ line₀ puts a line →
      Run a₀ line₀ (puts ++ [item]) a { line with requests := line.requests.put item }
  | aside : Run a₀ line₀ puts a line → line.Aside line' → Run a₀ line₀ puts a line'

variable {settings : Settings} {a₀ a : Agent} {line₀ line : Line} {puts : List (Option Request)}

theorem Run.trans {a' : Agent} {line' : Line} {more : List (Option Request)}
    (first : Run a₀ line₀ puts a line) (second : Run a line more a' line') :
    Run a₀ line₀ (puts ++ more) a' line' := by
  induction second with
  | start => rwa [List.append_nil]
  | step _ ih => exact ih.step
  | cancel _ ih => exact ih.cancel
  | put item _ ih =>
    rw [← List.append_assoc]
    exact ih.put item
  | aside _ aside ih => exact ih.aside aside

theorem Run.putAll (run : Run a₀ line₀ puts a line) (more : List (Option Request)) :
    ∃ next, Run a₀ line₀ (puts ++ more) a next := by
  induction more generalizing puts line with
  | nil => exact ⟨line, by rwa [List.append_nil]⟩
  | cons item more ih =>
    obtain ⟨next, later⟩ := ih (run.put item)
    rw [List.append_assoc] at later
    exact ⟨next, later⟩

def advance : Nat → Agent → Line → Agent × Line
  | 0, a, line => (a, line)
  | n + 1, a, line => advance n (a.step line).1 (a.step line).2.1

theorem Run.advance (run : Run a₀ line₀ puts a line) (n : Nat) :
    Run a₀ line₀ puts (a.advance n line).1 (a.advance n line).2 := by
  induction n generalizing a line with
  | zero => exact run
  | succ n ih => exact ih run.step

/-- A meter that leaves every other call unanswered, and takes its time for the others. -/
def hesitant (delay : Option Number) : Bus where
  opening := .connects true
  copiesTimeout := false
  reply earlier _ :=
    if earlier.length % 2 = 0 then .silence else .answered delay (.registers [0x4366, 0x8000])

def hesitantLine (delay : Option Number) (bound : Nat) : Line where
  link := (Link.make (hesitant delay) (.make "/dev/ttyUSB0" .b9600n false) false).openPort.1
  requests := ⟨[some ⟨1, 4, 0, 2, .raw32, some "VolLocPhsA"⟩, none], 0, 2⟩
  readings := .empty bound
  controls := .empty bound

theorem hesitantLine_unused (delay : Option Number) (bound : Nat) :
    (hesitantLine delay bound).link.Unused := by
  have fresh : (Link.make (hesitant delay) (.make "/dev/ttyUSB0" .b9600n false) false).ledger =
      ⟨[], .fresh⟩ := rfl
  exact Link.openPort_unused fresh rfl

/-- Every run keeps account of the items that were there at the start or were put since. -/
theorem Run.account (unused : line₀.link.Unused) (run : Run (make settings) line₀ puts a line) :
    Account line₀.link.bus line₀.link.timeout settings (line₀.requests.items ++ puts) a line := by
  induction run with
  | start =>
    refine ⟨rfl, unused.serves, [], by simp, [], rfl, ?_⟩
    rw [unused.ledger]
    rfl
  | step _ ih => exact step_account ih
  | cancel _ ih => exact cancel_account ih
  | put item _ ih =>
    obtain ⟨same, serves, taken, split, stands⟩ := ih
    refine ⟨same, serves, taken, ?_, stands⟩
    rw [← List.append_assoc, split, List.append_assoc]
    rfl
  | aside _ aside ih =>
    obtain ⟨same, serves, taken, split, stands⟩ := ih
    exact ⟨same, aside.serves serves, taken, aside.requests ▸ split, aside.ledger ▸ stands⟩

end Agent

end MeterPolling
