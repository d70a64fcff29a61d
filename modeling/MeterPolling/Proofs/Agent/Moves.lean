import MeterPolling.Proofs.Agent.Effect
import MeterPolling.Proofs.Agent.Run
/-!
All that a step of an agent can be. Each kind of step is said once, with the conditions under which
it is taken and with what it does to the stage, to the line and to the pause that follows. What
holds throughout a run is then proved by these cases, and nothing has to look into the steps again.
-/
namespace MeterPolling

structure RetryWarning where
  device : Int
  attempt : Nat
  limit : Nat
deriving DecidableEq

def Event.warning? : Event → Option RetryWarning
  | .noted (.retrying device attempt limit) => some ⟨device, attempt, limit⟩
  | _ => none

namespace Link

structure Calm (link next : Link) : Prop where
  calls : next.recorded Event.call? = link.recorded Event.call?
  warnings : next.recorded Event.warning? = link.recorded Event.warning?
  counters : next.counters = link.counters

structure Asks (link next : Link) (call : Call) : Prop where
  works : link.Works next
  calls : next.recorded Event.call? = link.recorded Event.call? ++ [call]
  warnings : next.recorded Event.warning? = link.recorded Event.warning?
  counters : next.counters = link.counters.addRequest

structure Warns (link next : Link) (warning : RetryWarning) : Prop where
  works : link.Works next
  calls : next.recorded Event.call? = link.recorded Event.call?
  warnings : next.recorded Event.warning? = link.recorded Event.warning? ++ [warning]
  counters : next.counters = link.counters.addReconnect

variable {link next : Link} {bus : Bus} {timeout : Number} {r : Request}

theorem Calm.refl (link : Link) : link.Calm link := ⟨rfl, rfl, rfl⟩

theorem calm_record (link : Link) {event : Event} (uncalled : event.call? = none)
    (unwarned : event.warning? = none) : link.Calm (link.record event) :=
  ⟨recorded_none link uncalled, recorded_none link unwarned, rfl⟩

theorem beginQuery_asks (serves : link.Serves bus timeout) (accepted : r.refusal? = none) :
    ∃ next, link.beginQuery r = (next, .ok (bus.exchange timeout link.earlier r.call)) ∧
      link.Asks next r.call := by
  have works := link.beginQuery_works r
  obtain ⟨rfl, client, present, rfl, calls⟩ := serves
  have known := (refusal_none accepted).2
  let counted : Link := { link with counters := link.counters.addRequest }
  have still : counted.session.client = some client := present
  rw [beginQuery_handed accepted, beginRead_known known still] at works ⊢
  rw [← calls]
  refine ⟨_, rfl, works, ?_, recorded_none _ rfl, rfl⟩
  exact recorded_some _ rfl

theorem settleQuery_calm (link : Link) (exchange : Exchange) :
    link.Calm (link.settleQuery exchange).1 := by
  unfold settleQuery
  split
  · simp only
    split
    · exact calm_record link rfl rfl
    · exact .refl link
  · exact .refl link

theorem Calm.warns (calm : link.Calm next) (works : link.Works next) (device : Int)
    (attempt limit : Nat) :
    link.Warns ({ next with counters := next.counters.addReconnect }.note
      (.retrying device attempt limit)) ⟨device, attempt, limit⟩ := by
  obtain ⟨calls, warnings, counters⟩ := calm
  constructor
  · exact works.fault device attempt limit
  · exact (recorded_none _ rfl).trans calls
  · rw [← warnings]
    exact recorded_some _ rfl
  · rw [← counters]
    rfl

end Link

theorem Bus.exchange_call (bus : Bus) (timeout : Number) (earlier : List Call) (call : Call) :
    (bus.exchange timeout earlier call).call = call := by
  unfold exchange
  split <;> rfl

def Line.withLeft (line : Line) (rest : List (Option Request)) : Line :=
  { line with requests := { line.requests with items := rest } }

def Line.withLink (line : Line) (link : Link) : Line := { line with link := link }

namespace Agent

variable {a : Agent} {line : Line} {bus : Bus} {timeout : Number}

inductive Pausing (a : Agent) (delay : Number) (stage : Stage) (line : Line) :
    Agent × Line × Pause → Prop where
  | pauses (pause : Pause) : Pause.ofDelay? delay = some pause →
      Pausing a delay stage line ({ a with stage := stage }, line, pause)
  | fails : Pause.ofDelay? delay = none → Pausing a delay stage line (a.fail line .tooLarge)

inductive Taking (a : Agent) (line : Line) : Agent × Line × Pause → Prop where
  | waits : line.requests.items = [] → Taking a line (a, line, .waits)
  | told (rest : List (Option Request)) : line.requests.items = none :: rest →
      Taking a line ({ a with stage := .ended .told }, (line.withLeft rest).acknowledge, .ends)
  | same (r : Request) (rest : List (Option Request)) : line.requests.items = some r :: rest →
      a.previous = some r.device →
      Taking a line ({ a with stage := .asking r 1 }, line.withLeft rest, .continues)
  | other (r : Request) (rest : List (Option Request)) (result : Agent × Line × Pause) :
      line.requests.items = some r :: rest → a.previous ≠ some r.device →
      Pausing a a.settings.settleDelay (.settling r) (line.withLeft rest) result →
      Taking a line result

inductive Asking (a : Agent) (line : Line) (r : Request) (number : Nat) :
    Agent × Line × Pause → Prop where
  | exhausted : a.settings.attempts < number →
      Asking a line r number ({ a with stage := .reporting (.silent r.device) }, line, .continues)
  | refused (f : Failure) : number ≤ a.settings.attempts → r.refusal? = some f →
      Asking a line r number (a.fail line f)
  | asks (next : Link) (exchange : Exchange) (pause : Pause) : number ≤ a.settings.attempts →
      r.refusal? = none → line.link.Asks next r.call → exchange.call = r.call →
      exchange.pause? = some pause →
      Asking a line r number
        ({ a with stage := .waiting r number exchange }, line.withLink next, pause)
  | overlong (next : Link) : number ≤ a.settings.attempts → r.refusal? = none →
      line.link.Asks next r.call → Asking a line r number (a.fail (line.withLink next) .tooLarge)

inductive Settling (a : Agent) (line : Line) (r : Request) (number : Nat) (exchange : Exchange) :
    Agent × Line × Pause → Prop where
  | delivers (next : Link) (bytes : List UInt8) (value : Binary64) : line.link.Calm next →
      line.link.Works next → exchange.settle = .ok bytes → r.decoder.decode bytes = .ok value →
      Settling a line r number exchange
        ({ a with stage := .delivering ⟨r, value, next.now⟩ }, line.withLink next, .continues)
  | retries (next : Link) (fault : TransportFault) (result : Agent × Line × Pause) :
      exchange.settle = .error (.transport fault) →
      line.link.Warns next ⟨r.device, number, a.settings.attempts⟩ →
      Pausing a a.settings.retryDelay (.retrying r number) (line.withLink next) result →
      Settling a line r number exchange result
  | fails (next : Link) (f : Failure) : isFault exchange.settle = false → line.link.Calm next →
      line.link.Works next → Settling a line r number exchange (a.fail (line.withLink next) f)

inductive Moves (a : Agent) (line : Line) : Agent × Line × Pause → Prop where
  | takes (result : Agent × Line × Pause) : a.stage = .idle → Taking a line result →
      Moves a line result
  | settled (r : Request) : a.stage = .settling r →
      Moves a line ({ a with previous := some r.device, stage := .asking r 1 }, line, .continues)
  | asks (r : Request) (number : Nat) (result : Agent × Line × Pause) :
      a.stage = .asking r number → Asking a line r number result → Moves a line result
  | settles (r : Request) (number : Nat) (exchange : Exchange) (result : Agent × Line × Pause) :
      a.stage = .waiting r number exchange → Settling a line r number exchange result →
      Moves a line result
  | retried (r : Request) (number : Nat) : a.stage = .retrying r number →
      Moves a line ({ a with stage := .asking r (number + 1) }, line, .continues)
  | holds (reading : Reading) : a.stage = .delivering reading → line.readings.isFull = true →
      Moves a line (a, line, .waits)
  | delivers (reading : Reading) : a.stage = .delivering reading → line.readings.isFull = false →
      Moves a line
        ({ a with stage := .reporting (.answered reading.request.device) }, line.deliver reading,
          .continues)
  | withholds (control : Control) : a.stage = .reporting control → line.controls.isFull = true →
      Moves a line (a, line, .waits)
  | reports (control : Control) : a.stage = .reporting control → line.controls.isFull = false →
      Moves a line ({ a with stage := .idle }, (line.report control).acknowledge, .continues)
  | stays (outcome : Outcome) : a.stage = .ended outcome → Moves a line (a, line, .ends)

theorem pauseFor_pausing (a : Agent) (delay : Number) (stage : Stage) (line : Line) :
    Pausing a delay stage line (a.pauseFor delay stage line) := by
  unfold pauseFor
  split
  · rename_i pause length
    exact .pauses pause length
  · rename_i endless
    exact .fails endless

theorem takeRequest_taking (a : Agent) (line : Line) : Taking a line (a.takeRequest line) := by
  unfold takeRequest Channel.take?
  cases items : line.requests.items with
  | nil => exact .waits items
  | cons item rest =>
    cases item with
    | none => exact .told rest items
    | some r =>
      simp only
      split
      · rename_i same
        exact .same r rest items same
      · rename_i other
        exact .other r rest _ items other (pauseFor_pausing a _ _ _)

theorem ask_asking (serves : line.link.Serves bus timeout) (r : Request) (number : Nat) :
    Asking a line r number (a.ask line r number) := by
  unfold ask
  split
  · rename_i exhausted
    exact .exhausted exhausted
  · rename_i left
    have within : number ≤ a.settings.attempts := Nat.le_of_not_lt left
    cases refusal : r.refusal? with
    | some f =>
      rw [Link.beginQuery_refused refusal]
      exact .refused f within refusal
    | none =>
      obtain ⟨next, begun, asks⟩ := Link.beginQuery_asks serves refusal
      rw [begun]
      simp only
      split
      · rename_i pause length
        exact .asks next _ pause within refusal asks (bus.exchange_call timeout _ r.call) length
      · exact .overlong next within refusal asks

theorem settle_settling (a : Agent) (line : Line) (r : Request) (number : Nat)
    (exchange : Exchange) :
    Settling a line r number exchange (a.settle line r number exchange) := by
  have calm := line.link.settleQuery_calm exchange
  have works := line.link.settleQuery_works exchange
  have reply := line.link.settleQuery_reply exchange
  unfold settle
  generalize line.link.settleQuery exchange = settled at calm works reply ⊢
  obtain ⟨next, result⟩ := settled
  cases result with
  | ok bytes =>
    simp only
    cases decoded : r.decoder.decode bytes with
    | ok value => exact .delivers next bytes value calm works reply.symm decoded
    | error f => exact .fails next _ (by rw [← reply]; rfl) calm works
  | error f =>
    cases f with
    | transport fault =>
      have warns := calm.warns works r.device number a.settings.attempts
      exact .retries _ fault _ reply.symm warns (pauseFor_pausing a _ _ _)
    | _ => exact .fails next _ (by rw [← reply]; rfl) calm works

theorem step_moves (serves : line.link.Serves bus timeout) : Moves a line (a.step line) := by
  unfold step
  cases stage : a.stage with
  | idle => exact .takes _ stage (takeRequest_taking a line)
  | settling r => exact .settled r stage
  | asking r number => exact .asks r number _ stage (ask_asking serves r number)
  | waiting r number exchange =>
    exact .settles r number exchange _ stage (settle_settling a line r number exchange)
  | retrying r number => exact .retried r number stage
  | delivering reading =>
    cases full : line.readings.isFull with
    | true => exact .holds reading stage full
    | false => exact .delivers reading stage full
  | reporting control =>
    cases full : line.controls.isFull with
    | true => exact .withholds control stage full
    | false => exact .reports control stage full
  | ended outcome => exact .stays outcome stage

theorem Pausing.cancelled_not {delay : Number} {stage : Stage} {result : Agent × Line × Pause}
    (pausing : Pausing a delay stage line result)
    (alive : stage ≠ .ended .cancelled) : result.1.stage ≠ .ended .cancelled := by
  cases pausing with
  | pauses pause found => exact alive
  | fails endless => exact fun cancelled => by cases cancelled

/-- Nobody cancels itself. -/
theorem Moves.cancelled_not {result : Agent × Line × Pause} (moves : Moves a line result)
    (alive : a.stage ≠ .ended .cancelled) :
    result.1.stage ≠ .ended .cancelled := by
  cases moves with
  | takes result stage taking =>
    cases taking with
    | waits empty => exact alive
    | other r rest result items other pausing => exact pausing.cancelled_not (by simp)
    | _ => exact fun cancelled => by cases cancelled
  | asks r number result stage asking =>
    cases asking <;> exact fun cancelled => by cases cancelled
  | settles r number exchange result stage settling =>
    cases settling with
    | retries next fault result reply warns pausing => exact pausing.cancelled_not (by simp)
    | _ => exact fun cancelled => by cases cancelled
  | holds reading stage full => exact alive
  | withholds control stage full => exact alive
  | stays outcome stage => exact alive
  | _ => exact fun cancelled => by cases cancelled

end Agent

end MeterPolling
