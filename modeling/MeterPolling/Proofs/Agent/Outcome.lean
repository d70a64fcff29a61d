import MeterPolling.Proofs.Agent.Outputs
import MeterPolling.Proofs.Agent.Progress
import MeterPolling.Proofs.Agent.Stamp
/-!
Each request that an agent takes has exactly one outcome: a control, after its result where its
device answered; or the end of the agent, with neither. Just these are put in the outputs, and they
are put on record as well. This holds at every moment of every run, whatever the bus does and however
slowly the readings and controls are read.
-/
namespace MeterPolling

def Control.isAnswered : Control → Bool
  | .answered _ => true
  | .silent _ => false

namespace Agent

/-- What came of the requests taken so far, of which the first `closed` are done with, and what was
put in the outputs for them. -/
structure Outcomes (bus : Bus) (timeout : Number) (settings : Settings) (requests : List Request)
    (outputs : Outputs) (link : Link) (stage : Stage) (cases : List Case) (closed : Nat) : Prop where
  each : cases.map Case.request = requests
  latest : closed = requests.length ∨ closed + 1 = requests.length
  /-- No request is passed over: the agent takes the next one, or ends as it is told, only after it
  is done with all before. -/
  rests : stage = .idle ∨ stage = .ended .told → closed = requests.length
  /-- The attempts at a request follow all those at the requests before it. -/
  silent : ∀ before c after, cases = before ++ c :: after → (c.verdict = .silent ↔
    ∀ i < settings.attempts, isFault (bus.attempt (Case.allAsked before).reverse c.request i) = true)
  answered : ∀ before c after, cases = before ++ c :: after → ∀ value,
    (c.verdict = .answered value ↔
      bus.Answers settings.attempts (Case.allAsked before).reverse c.request value)
  /-- The calls on record are those attempts. -/
  calls : Case.allAsked (cases.take closed) <+: link.recorded Event.call? ∧
    link.recorded Event.call? <+: Case.allAsked cases
  controls : (cases.take closed).map Case.control? = outputs.controls.map some
  results : ∃ n, (n = closed ∨ n = closed + 1) ∧
    outputs.readings.map Reading.result = (cases.take n).filterMap Case.result?
  balance : ∃ ahead ≤ 1,
    outputs.readings.length = (outputs.controls.filter Control.isAnswered).length + ahead
  /-- Whoever fails does so over the latest request, which has neither result nor control. It is
  the request that fails, or a pause that is too long. -/
  failed : ∀ f, stage = .ended (.failed f) → closed + 1 = requests.length ∧
    outputs.readings.map Reading.result = (cases.take closed).filterMap Case.result? ∧
    ∃ c, cases.getLast? = some c ∧ (c.verdict = .failed f ∨ Overlong bus timeout settings f)
  /-- The readings and controls on record are those that were put. -/
  recorded : link.outputs = outputs

variable {bus : Bus} {timeout : Number} {settings : Settings} {taken : List (Option Request)}
  {outputs : Outputs} {link : Link} {stage : Stage} {closed current : List Case} {part : List Deed}

theorem filterMap_control (goes_on : ∀ c ∈ closed, c.ending? = none) :
    closed.map Case.control? = (closed.filterMap Case.control?).map some := by
  induction closed with
  | nil => rfl
  | cons c closed ih =>
    have rest := ih fun d member => goes_on d (List.mem_cons_of_mem c member)
    obtain ⟨control, found⟩ := Option.isSome_iff_exists.mp
      (Case.control_isSome (goes_on c List.mem_cons_self))
    rw [List.map_cons, rest, List.filterMap_cons_some found, found, List.map_cons]

/-- Each answered request has one result and one control that says so. -/
theorem answered_length (cases : List Case) :
    (cases.filterMap Case.result?).length =
      ((cases.filterMap Case.control?).filter Control.isAnswered).length := by
  induction cases with
  | nil => rfl
  | cons c cases ih =>
    obtain ⟨r, calls, verdict⟩ := c
    cases verdict <;>
      simp [List.filterMap_cons, List.filter_cons, Case.result?, Case.control?,
        Control.isAnswered, ih]

theorem Progress.results
    (progress : Progress bus timeout settings taken link.deeds stage closed current part) :
    part.filterMap Deed.result? = [] ∨
      part.filterMap Deed.result? = current.filterMap Case.result? := by
  have seen := progress.seen.filterMap Deed.result?
  rw [Case.trace_results] at seen
  have one : (current.filterMap Case.result?).length ≤ 1 :=
    Nat.le_trans (List.length_filterMap_le _ _) progress.one
  -- a case has one result at most, so that a part with one has all
  cases found : part.filterMap Deed.result? with
  | nil => exact .inl rfl
  | cons result results =>
    rw [found] at seen
    refine .inr (seen.eq_of_length_le ?_)
    rw [List.length_cons]
    omega

theorem Progress.outcomes
    (progress : Progress bus timeout settings taken link.deeds stage closed current part)
    (recorded : link.outputs = outputs) :
    Outcomes bus timeout settings taken.reduceOption outputs link stage (closed ++ current)
      closed.length := by
  subst recorded
  have done : (closed ++ current).take closed.length = closed := List.take_left
  have all : (closed ++ current).take (closed.length + 1) = closed ++ current := by
    apply List.take_of_length_le
    rw [List.length_append]
    have := progress.one
    omega
  have results := congrArg (List.filterMap Deed.result?) progress.deeds
  rw [Link.deeds_results, List.filterMap_append, Case.trace_results] at results
  have controls := congrArg (List.filterMap Deed.control?) progress.deeds
  rw [Link.deeds_controls, List.filterMap_append, Case.trace_controls, progress.unreported,
    List.append_nil] at controls
  have calls := congrArg (List.filterMap Deed.call?) progress.deeds
  rw [Link.deeds_calls, List.filterMap_append, Case.trace_calls] at calls
  have count : (closed ++ current).length = taken.reduceOption.length := by
    rw [progress.requests, List.length_map]
  constructor
  case each => exact progress.requests.symm
  case latest =>
    rw [← count, List.length_append]
    have := progress.one
    omega
  case rests =>
    intro resting
    rw [← count, progress.rests resting, List.append_nil]
  case silent =>
    intro before c after split
    have treated := Bus.course_treated (progress.course.trans split)
    rw [List.append_nil] at treated
    rw [treated, Bus.treat_request]
    exact Bus.treat_silent_iff
  case answered =>
    intro before c after split value
    have treated := Bus.course_treated (progress.course.trans split)
    rw [List.append_nil] at treated
    rw [treated, Bus.treat_request]
    exact Bus.treat_answered_iff
  case calls =>
    rw [calls, done, Case.allAsked, Case.allAsked, List.flatMap_append]
    refine ⟨List.prefix_append _ _, (List.prefix_append_right_inj _).mpr ?_⟩
    have seen := progress.seen.filterMap Deed.call?
    rwa [Case.trace_calls] at seen
  case controls =>
    rw [done, Link.outputs, controls]
    exact filterMap_control progress.goes_on
  case results =>
    rcases progress.results with none | one
    · refine ⟨closed.length, .inl rfl, ?_⟩
      rw [done, Link.outputs, results, none, List.append_nil]
    · refine ⟨closed.length + 1, .inr rfl, ?_⟩
      rw [all, Link.outputs, results, one, List.filterMap_append]
  case balance =>
    have ahead : (part.filterMap Deed.result?).length ≤ 1 := by
      rcases progress.results with none | one
      · rw [none]
        exact Nat.zero_le 1
      · rw [one]
        exact Nat.le_trans (List.length_filterMap_le _ _) progress.one
    refine ⟨_, ahead, ?_⟩
    rw [Link.outputs, controls, ← answered_length, ← List.length_append, ← results, List.length_map]
  case failed =>
    intro f ended
    obtain ⟨unseen, c, rfl, cause⟩ := progress.failed f ended
    refine ⟨?_, ?_, c, List.getLast?_concat, cause⟩
    · rw [← count, List.length_append, List.length_singleton]
    · rw [done, Link.outputs, results, unseen, List.append_nil]
  case recorded => rfl

/-- At every moment of a run, the items that were put are those taken and those still queued, and
the requests among those taken have had exactly one outcome each, except the latest, which may still
be under way. Each reading carries the time at which its reply was looked at. -/
theorem Emitted.each_has_one_outcome {line₀ line : Line}
    {puts : List (Option Request)} {a : Agent} (unused : line₀.link.Unused)
    (emitted : Emitted (make settings) line₀ puts outputs a line) :
    ∃ taken cases closed, line₀.requests.items ++ puts = taken ++ line.requests.items ∧
      Outcomes line₀.link.bus line₀.link.timeout settings taken.reduceOption outputs line.link
        a.stage cases closed ∧
      ∀ reading ∈ outputs.readings, ReadAt (make settings) line₀ reading := by
  have recorded := emitted.recorded unused
  obtain ⟨_, _, taken, split, stands⟩ := emitted.run.account unused
  obtain ⟨closed, current, part, progress⟩ := stands.progress
  refine ⟨taken, closed ++ current, closed.length, split, progress.outcomes recorded, ?_⟩
  intro reading member
  rw [← recorded] at member
  exact emitted.run.stamped unused reading (.inl member)

/-- A meter that answers at its second call: after ten steps its reading and its control have been
put, and the agent has stopped as it was told. -/
theorem Emitted.hesitant_meter_has_one_outcome :
    let line := hesitantLine none 0
    let last := (make .default).advance 10 line
    let outputs : Outputs := ⟨last.2.readings.items, last.2.controls.items⟩
    line.link.Unused ∧ Emitted (make .default) line [] outputs last.1 last.2 ∧
      (outputs.readings.length = 1 ∧ outputs.controls = [.answered 1]) ∧
      last.1.stage = .ended .told ∧
      ∃ taken cases closed, line.requests.items ++ [] = taken ++ last.2.requests.items ∧
        Outcomes line.link.bus line.link.timeout .default taken.reduceOption outputs last.2.link
          last.1.stage cases closed ∧
        ∀ reading ∈ outputs.readings, ReadAt (make .default) line reading := by
  intro line last outputs
  have unused := hesitantLine_unused none 0
  obtain ⟨put, emitted⟩ := (Run.start.advance 10 : Run (make .default) line [] _ _).emitted
  -- nobody reads the outputs of this line, so that all that was put is still there
  have left : last.2.link.outputs = outputs := by decide +kernel
  have all : put = outputs := (emitted.recorded unused).symm.trans left
  rw [all] at emitted
  have count : outputs.readings.length = 1 ∧ outputs.controls = [.answered 1] := by decide +kernel
  have told : last.1.stage = .ended .told := by decide +kernel
  exact ⟨unused, emitted, count, told, Emitted.each_has_one_outcome unused emitted⟩

end Agent

end MeterPolling
