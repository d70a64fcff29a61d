import MeterPolling.Proofs.Agent.Moves
import MeterPolling.Proofs.Agent.Outputs
/-!
Runs of an agent of which a log is kept. The log has one entry for each call of the client: at which
attempt of which request it was made, when it began, and how and when it ended. It is read off what
happens from outside, and it agrees with all that is counted and reported of the calls.
-/
namespace MeterPolling

structure Attempt where
  request : Request
  number : Nat
  call : Call
  began : Binary64
  /-- What came of it, with the line as it was at that moment. -/
  ending : Option (Line × Except Failure (List UInt8))

namespace Attempt

def failed (t : Attempt) : Bool := t.ending.any fun e => isFault e.2

def warning (limit : Nat) (t : Attempt) : RetryWarning := ⟨t.request.device, t.number, limit⟩

def endWith (t : Attempt) (line : Line) (result : Except Failure (List UInt8)) : Attempt :=
  { t with ending := some (line, result) }

def endLast (line : Line) (result : Except Failure (List UInt8)) (log : List Attempt) :
    List Attempt :=
  log.dropLast ++ (log.getLast?.map fun t => t.endWith line result).toList

theorem endLast_concat (line : Line) (result : Except Failure (List UInt8)) (log : List Attempt)
    (t : Attempt) : endLast line result (log ++ [t]) = log ++ [t.endWith line result] := by
  simp [endLast]

theorem unfailed {t : Attempt} (in_flight : t.ending = none) : t.failed = false := by
  simp [failed, in_flight]

theorem endWith_failed (t : Attempt) (line : Line) (result : Except Failure (List UInt8)) :
    (t.endWith line result).failed = isFault result := rfl

end Attempt

/-- Nothing that concerns the agent's work differs between two lines, nor what it warned of. -/
structure Line.Apart (line line' : Line) : Prop extends Line.Aside line line' where
  warnings : line'.link.recorded Event.warning? = line.link.recorded Event.warning?

theorem Line.Apart.calm {line line' : Line} (apart : line.Apart line') :
    line.link.Calm line'.link := by
  constructor
  · rw [← Link.deeds_calls, ← Link.deeds_calls]
    exact congrArg _ (congrArg Ledger.deeds apart.ledger)
  · exact apart.warnings
  · exact congrArg Ledger.counters apart.ledger

namespace Agent

/-- Adds to a log what can be seen of a step of the agent: that a call was made, or that the one in
flight has ended. -/
def observe (a : Agent) (line next : Line) (log : List Attempt) : List Attempt :=
  match a.stage with
  | .asking r number =>
    let before := line.link.recorded Event.call?
    let made := (next.link.recorded Event.call?).drop before.length
    log ++ made.map fun call => ⟨r, number, call, line.now, none⟩
  | .waiting _ _ exchange => Attempt.endLast line exchange.settle log
  | _ => log

/-- A run with the items put meanwhile, with the log of its attempts and with what the agent put in
the outputs. Nobody but the agent gives its warnings. -/
inductive Observed (a₀ : Agent) (line₀ : Line) :
    List (Option Request) → List Attempt → Outputs → Agent → Line → Prop where
  | start : Observed a₀ line₀ [] [] .none a₀ line₀
  | step : Observed a₀ line₀ puts log outputs a line →
      Observed a₀ line₀ puts (a.observe line (a.step line).2.1 log)
        (outputs.extend line (a.step line).2.1) (a.step line).1 (a.step line).2.1
  | cancel : Observed a₀ line₀ puts log outputs a line →
      Observed a₀ line₀ puts log (outputs.extend line (a.cancel line).2) (a.cancel line).1
        (a.cancel line).2
  | put (item : Option Request) : Observed a₀ line₀ puts log outputs a line →
      Observed a₀ line₀ (puts ++ [item]) log outputs a
        { line with requests := line.requests.put item }
  | aside : Observed a₀ line₀ puts log outputs a line → line.Apart line' →
      Observed a₀ line₀ puts log outputs a line'

variable {a₀ a : Agent} {line₀ line line' : Line} {puts : List (Option Request)}
  {log : List Attempt} {outputs : Outputs} {settings : Settings} {bus : Bus} {timeout : Number}
  {result : Agent × Line × Pause}

theorem Observed.emitted (observed : Observed a₀ line₀ puts log outputs a line) :
    Emitted a₀ line₀ puts outputs a line := by
  induction observed with
  | start => exact .start
  | step _ ih => exact ih.step
  | cancel _ ih => exact ih.cancel
  | put item _ ih => exact ih.put item
  | aside _ apart ih => exact ih.aside apart.toAside

def watch : Nat → List Attempt → Agent → Line → List Attempt
  | 0, log, _, _ => log
  | n + 1, log, a, line =>
    watch n (a.observe line (a.step line).2.1 log) (a.step line).1 (a.step line).2.1

theorem Observed.advance (observed : Observed a₀ line₀ puts log outputs a line) (n : Nat) :
    ∃ outputs', Observed a₀ line₀ puts (watch n log a line) outputs' (a.advance n line).1
      (a.advance n line).2 := by
  induction n generalizing log outputs a line with
  | zero => exact ⟨outputs, observed⟩
  | succ n ih => exact ih observed.step

theorem Observed.serves (unused : line₀.link.Unused)
    (observed : Observed (make settings) line₀ puts log outputs a line) :
    a.settings = settings ∧ line.link.Serves line₀.link.bus line₀.link.timeout := by
  have account := observed.emitted.run.account unused
  exact ⟨account.same, account.serves⟩

/-! ## What a log shows of each step -/

def Stage.calling : Stage → Bool
  | .asking _ _ | .waiting _ _ _ => true
  | _ => false

theorem observe_still {next' : Line} (still : a.stage.calling = false) :
    a.observe line next' log = log := by
  unfold observe
  cases stage : a.stage with
  | asking r number => simp [stage, Stage.calling] at still
  | waiting r number exchange => simp [stage, Stage.calling] at still
  | _ => rfl

theorem observe_asks {r : Request} {number : Nat} {next : Link} {next' : Line}
    (asking : a.stage = .asking r number) (asks : line.link.Asks next r.call)
    (same : next'.link = next) :
    a.observe line next' log = log ++ [⟨r, number, r.call, line.now, none⟩] := by
  simp only [observe, asking, same, asks.calls, List.drop_left, List.map_singleton]

theorem observe_unasked {r : Request} {number : Nat} {next' : Line}
    (asking : a.stage = .asking r number)
    (same : next'.link.recorded Event.call? = line.link.recorded Event.call?) :
    a.observe line next' log = log := by
  simp only [observe, asking, same, List.drop_length, List.map_nil, List.append_nil]

theorem observe_ends {r : Request} {number : Nat} {exchange : Exchange} {ended : List Attempt}
    {t : Attempt} {next' : Line} (waiting : a.stage = .waiting r number exchange) :
    a.observe line next' (ended ++ [t]) = ended ++ [t.endWith line exchange.settle] := by
  simp only [observe, waiting, Attempt.endLast_concat]

/-! ## A log and the record -/

/-- Which attempts of a log have ended: all, but for the latest one while its call is in flight. -/
def Stage.Leaves (log : List Attempt) : Stage → Prop
  | .waiting r number exchange => ∃ ended t, log = ended ++ [t] ∧ (∀ u ∈ ended, u.ending.isSome) ∧
      t.request = r ∧ t.number = number ∧ t.call = exchange.call ∧ t.ending = none
  | .ended _ => ∀ u ∈ log.dropLast, u.ending.isSome
  | _ => ∀ u ∈ log, u.ending.isSome

structure Logged (limit : Nat) (log : List Attempt) (stage : Stage) (link : Link) : Prop where
  calls : link.recorded Event.call? = log.map Attempt.call
  requests : link.counters.requests = log.length
  reconnects : link.counters.reconnects = log.countP Attempt.failed
  warnings : link.recorded Event.warning? =
    (log.filter Attempt.failed).map (Attempt.warning limit)
  leaves : stage.Leaves log

variable {limit : Nat} {stage stage' : Stage} {link next : Link}

theorem Logged.calm (logged : Logged limit log stage link) (calm : link.Calm next)
    (leaves : stage'.Leaves log) : Logged limit log stage' next := by
  constructor
  · rw [calm.calls, logged.calls]
  · rw [calm.counters, logged.requests]
  · rw [calm.counters, logged.reconnects]
  · rw [calm.warnings, logged.warnings]
  · exact leaves

/-- A call that was just made has not failed. -/
theorem Logged.asks {t : Attempt} (logged : Logged limit log stage link)
    (asks : link.Asks next t.call) (in_flight : t.ending = none)
    (leaves : stage'.Leaves (log ++ [t])) : Logged limit (log ++ [t]) stage' next := by
  have unfailed := Attempt.unfailed in_flight
  constructor
  · rw [asks.calls, logged.calls, List.map_append]
    rfl
  · rw [asks.counters, List.length_append, ← logged.requests]
    rfl
  · rw [asks.counters, List.countP_append, ← logged.reconnects]
    simp [unfailed, Counters.addRequest]
  · rw [asks.warnings, logged.warnings, List.filter_append]
    simp [unfailed]
  · exact leaves

variable {ended : List Attempt} {t : Attempt} {reply : Except Failure (List UInt8)}

/-- A call in flight counts as made, and not yet as failed. -/
theorem Logged.in_flight (logged : Logged limit (ended ++ [t]) stage link)
    (in_flight : t.ending = none) :
    link.recorded Event.call? = (ended ++ [t]).map Attempt.call ∧
      link.counters.requests = ended.length + 1 ∧
      link.counters.reconnects = ended.countP Attempt.failed ∧
      link.recorded Event.warning? =
        (ended.filter Attempt.failed).map (Attempt.warning limit) := by
  obtain ⟨calls, requests, reconnects, warnings, _⟩ := logged
  have unfailed := Attempt.unfailed in_flight
  refine ⟨calls, ?_, ?_, ?_⟩
  · rw [requests, List.length_append, List.length_singleton]
  · rw [reconnects, List.countP_append]
    simp [unfailed]
  · rw [warnings, List.filter_append]
    simp [unfailed]

theorem Logged.settles (logged : Logged limit (ended ++ [t]) stage link)
    (in_flight : t.ending = none) (sound : isFault reply = false) (calm : link.Calm next)
    (leaves : stage'.Leaves (ended ++ [t.endWith line reply])) :
    Logged limit (ended ++ [t.endWith line reply]) stage' next := by
  obtain ⟨calls, requests, reconnects, warnings⟩ := logged.in_flight in_flight
  have unfailed : (t.endWith line reply).failed = false := sound
  constructor
  · rw [calm.calls, calls, List.map_append, List.map_append]
    rfl
  · rw [calm.counters, requests, List.length_append, List.length_singleton]
  · rw [calm.counters, reconnects, List.countP_append]
    simp [unfailed]
  · rw [calm.warnings, warnings, List.filter_append]
    simp [unfailed]
  · exact leaves

theorem Logged.fails (logged : Logged limit (ended ++ [t]) stage link)
    (in_flight : t.ending = none) (fault : isFault reply = true)
    (warns : link.Warns next (t.warning limit))
    (leaves : stage'.Leaves (ended ++ [t.endWith line reply])) :
    Logged limit (ended ++ [t.endWith line reply]) stage' next := by
  obtain ⟨calls, requests, reconnects, warnings⟩ := logged.in_flight in_flight
  have failed : (t.endWith line reply).failed = true := fault
  constructor
  · rw [warns.calls, calls, List.map_append, List.map_append]
    rfl
  · rw [warns.counters, List.length_append, List.length_singleton, ← requests]
    rfl
  · rw [warns.counters, List.countP_append, ← reconnects]
    simp [failed, Counters.addReconnect]
  · rw [warns.warnings, warnings, List.filter_append, List.filter_cons_of_pos failed,
      List.filter_nil, List.map_append]
    rfl
  · exact leaves

theorem leaves_ended {outcome : Outcome} (all : ∀ u ∈ log, u.ending.isSome) :
    Stage.Leaves log (.ended outcome) :=
  fun u member => all u (List.dropLast_subset log member)

theorem ends_all (t : Attempt) (line : Line) (reply : Except Failure (List UInt8))
    (all : ∀ u ∈ ended, u.ending.isSome) :
    ∀ u ∈ ended ++ [t.endWith line reply], u.ending.isSome := by
  intro u member
  rcases List.mem_append.mp member with before | last
  · exact all u before
  · rw [List.mem_singleton.mp last]
    rfl

theorem Pausing.logged {delay : Number} (pausing : Pausing a delay stage line result)
    (logged : Logged limit log stage line.link)
    (failing : Stage.Leaves log (.ended (.failed .tooLarge))) :
    Logged limit log result.1.stage result.2.1.link := by
  cases pausing with
  | pauses pause length => exact logged
  | fails endless => exact logged.calm (.refl _) failing

theorem Moves.logged (same : a.settings.attempts = limit) (moves : Moves a line result)
    (logged : Logged limit log a.stage line.link) :
    Logged limit (a.observe line result.2.1 log) result.1.stage result.2.1.link := by
  have leaves := logged.leaves
  cases moves with
  | takes result stage taking =>
    rw [stage] at leaves
    rw [observe_still (by rw [stage]; rfl)]
    cases taking with
    | waits none => exact logged
    | told rest items => exact logged.calm (.refl _) (leaves_ended leaves)
    | same r rest items same => exact logged.calm (.refl _) leaves
    | other r rest result items other pausing =>
      exact pausing.logged (logged.calm (.refl _) leaves) (leaves_ended leaves)
  | settled r stage =>
    rw [stage] at leaves
    rw [observe_still (by rw [stage]; rfl)]
    exact logged.calm (.refl _) leaves
  | asks r number result stage asking =>
    rw [stage] at leaves
    cases asking with
    | exhausted spent =>
      have unseen : a.observe line line log = log := observe_unasked stage rfl
      rw [unseen]
      exact logged.calm (.refl _) leaves
    | refused f within refused =>
      have unseen : a.observe line (a.fail line f).2.1 log = log := observe_unasked stage rfl
      rw [unseen]
      exact logged.calm (.refl _) (leaves_ended leaves)
    | asks next exchange pause within accepted asks call length =>
      rw [observe_asks stage asks rfl]
      exact logged.asks asks rfl ⟨log, _, rfl, leaves, rfl, rfl, call.symm, rfl⟩
    | overlong next within accepted asks =>
      rw [observe_asks stage asks rfl]
      refine logged.asks asks rfl ?_
      intro u member
      rw [List.dropLast_concat] at member
      exact leaves u member
  | settles r number exchange result stage settling =>
    rw [stage] at leaves
    obtain ⟨ended, t, rfl, all, rfl, rfl, _, in_flight⟩ := leaves
    rw [observe_ends stage]
    have every := ends_all t line exchange.settle all
    cases settling with
    | delivers next bytes value calm works reply decoded =>
      exact logged.settles in_flight (by rw [reply]; rfl) calm every
    | retries next fault result reply warns pausing =>
      rw [same] at warns
      exact pausing.logged (logged.fails in_flight (by rw [reply]; rfl) warns every)
        (leaves_ended every)
    | fails next f sound calm works =>
      exact logged.settles in_flight sound calm (leaves_ended every)
  | retried r number stage =>
    rw [stage] at leaves
    rw [observe_still (by rw [stage]; rfl)]
    exact logged.calm (.refl _) leaves
  | holds reading stage full =>
    rw [observe_still (by rw [stage]; rfl)]
    exact logged
  | delivers reading stage room =>
    rw [stage] at leaves
    rw [observe_still (by rw [stage]; rfl)]
    exact logged.calm (Link.calm_record _ rfl rfl) leaves
  | withholds control stage full =>
    rw [observe_still (by rw [stage]; rfl)]
    exact logged
  | reports control stage room =>
    rw [stage] at leaves
    rw [observe_still (by rw [stage]; rfl)]
    exact logged.calm (Link.calm_record _ rfl rfl) leaves
  | stays outcome stage =>
    rw [observe_still (by rw [stage]; rfl)]
    exact logged

/-- Cancelling an agent leaves the log as it is, and a call that was in flight without an end. -/
theorem Logged.cancel (logged : Logged limit log a.stage line.link) :
    Logged limit log (a.cancel line).1.stage (a.cancel line).2.link := by
  have leaves := logged.leaves
  rcases a.cancel_cases line with alive | ⟨_, same⟩
  · obtain ⟨agent, link, _⟩ := cancel_alive line alive
    rw [agent, link]
    refine logged.calm (Link.calm_record _ rfl rfl) ?_
    cases stage : a.stage with
    | ended outcome => exact absurd stage (alive outcome)
    | waiting r number exchange =>
      rw [stage] at leaves
      obtain ⟨ended, t, rfl, all, _⟩ := leaves
      intro u member
      rw [List.dropLast_concat] at member
      exact all u member
    | _ =>
      rw [stage] at leaves
      exact leaves_ended leaves
  · rw [same]
    exact logged

structure Unwarned (link : Link) : Prop extends link.Unused where
  warnings : link.recorded Event.warning? = []

theorem hesitantLine_unwarned (delay : Option Number) (bound : Nat) :
    Unwarned (hesitantLine delay bound).link :=
  ⟨hesitantLine_unused delay bound, rfl⟩

theorem Observed.logged (fresh : Unwarned line₀.link)
    (observed : Observed (make settings) line₀ puts log outputs a line) :
    Logged settings.attempts log a.stage line.link := by
  induction observed with
  | start =>
    have deeds : line₀.link.deeds = [] := congrArg Ledger.deeds fresh.ledger
    have counters : line₀.link.counters = .fresh := congrArg Ledger.counters fresh.ledger
    constructor
    · rw [← Link.deeds_calls, deeds]
      rfl
    · rw [counters]
      rfl
    · rw [counters]
      rfl
    · exact fresh.warnings
    · exact fun u member => by cases member
  | step observed ih =>
    obtain ⟨same, serves⟩ := observed.serves fresh.toUnused
    exact (step_moves serves).logged (congrArg Settings.attempts same) ih
  | cancel _ ih => exact ih.cancel
  | put item _ ih => exact ih
  | aside _ apart ih => exact ih.calm apart.calm ih.leaves

end Agent

end MeterPolling
