import MeterPolling.Cooperative
import MeterPolling.Line
/-!
The polling agent. It takes requests one at a time and asks the device up to a given number of
times. Each request ends in exactly one control, after its reading when the device answered; and it
is acknowledged, however the agent comes to drop it. The stages of the agent are the places where it
can pause, and a few between them.
-/
namespace MeterPolling

namespace Agent

structure Settings where
  /-- How often a request is tried before it is given up. -/
  attempts : Nat
  /-- The quiet time before a device that was not asked last. -/
  settleDelay : Number
  /-- The pause after a failed attempt. -/
  retryDelay : Number

/-- Five attempts, with a tenth of a second for either pause. -/
def Settings.default : Settings :=
  ⟨5, .real (.ofQuotient false 1 10), .real (.ofQuotient false 1 10)⟩

inductive Outcome where
  | told
  | failed (failure : Failure)
  | cancelled
deriving DecidableEq

inductive Stage where
  | idle
  | settling (request : Request)
  | asking (request : Request) (attempt : Nat)
  | waiting (request : Request) (attempt : Nat) (exchange : Exchange)
  | retrying (request : Request) (attempt : Nat)
  | delivering (reading : Reading)
  | reporting (control : Control)
  | ended (outcome : Outcome)
deriving DecidableEq

end Agent

structure Agent where
  settings : Agent.Settings
  /-- The device that was asked last. -/
  previous : Option Int
  stage : Agent.Stage

namespace Agent

def make (settings : Settings) : Agent := ⟨settings, none, .idle⟩

def outcome? (a : Agent) : Option Outcome :=
  match a.stage with
  | .ended o => some o
  | _ => none

/-- Drops the request under way and ends. -/
def fail (a : Agent) (line : Line) (f : Failure) : Agent × Line × Pause :=
  ({ a with stage := .ended (.failed f) }, line.acknowledge, .ends)

/-- Pauses at a stage. A pause that is too long fails. -/
def pauseFor (a : Agent) (delay : Number) (stage : Stage) (line : Line) : Agent × Line × Pause :=
  match Pause.ofDelay? delay with
  | some pause => ({ a with stage := stage }, line, pause)
  | none => a.fail line .tooLarge

def takeRequest (a : Agent) (line : Line) : Agent × Line × Pause :=
  match line.requests.take? with
  | none => (a, line, .waits)
  | some (none, rest) =>
    ({ a with stage := .ended .told }, { line with requests := rest.acknowledge }, .ends)
  | some (some request, rest) =>
    let line := { line with requests := rest }
    if a.previous = some request.device then
      ({ a with stage := .asking request 1 }, line, .continues)
    else a.pauseFor a.settings.settleDelay (.settling request) line

/-- Makes an attempt, unless all were made. -/
def ask (a : Agent) (line : Line) (request : Request) (attempt : Nat) : Agent × Line × Pause :=
  if a.settings.attempts < attempt then
    ({ a with stage := .reporting (.silent request.device) }, line, .continues)
  else
    match line.link.beginQuery request with
    | (link, .error f) => a.fail { line with link := link } f
    | (link, .ok exchange) =>
      let line := { line with link := link }
      match exchange.pause? with
      | some pause => ({ a with stage := .waiting request attempt exchange }, line, pause)
      | none => a.fail line .tooLarge

/-- Looks at what became of an attempt. -/
def settle (a : Agent) (line : Line) (request : Request) (attempt : Nat) (exchange : Exchange) :
    Agent × Line × Pause :=
  match line.link.settleQuery exchange with
  | (link, .ok bytes) =>
    let line := { line with link := link }
    match request.decoder.decode bytes with
    | .ok value => ({ a with stage := .delivering ⟨request, value, line.now⟩ }, line, .continues)
    | .error f => a.fail line (.decoding f)
  | (link, .error (.transport _)) =>
    let link := { link with counters := link.counters.addReconnect }
    let link := link.note (.retrying request.device attempt a.settings.attempts)
    a.pauseFor a.settings.retryDelay (.retrying request attempt) { line with link := link }
  | (link, .error f) => a.fail { line with link := link } f

def step (a : Agent) (line : Line) : Agent × Line × Pause :=
  match a.stage with
  | .idle => a.takeRequest line
  | .settling request =>
    ({ a with previous := some request.device, stage := .asking request 1 }, line, .continues)
  | .asking request attempt => a.ask line request attempt
  | .waiting request attempt exchange => a.settle line request attempt exchange
  | .retrying request attempt =>
    ({ a with stage := .asking request (attempt + 1) }, line, .continues)
  | .delivering reading =>
    if line.readings.isFull then (a, line, .waits)
    else
      ({ a with stage := .reporting (.answered reading.request.device) }, line.deliver reading,
        .continues)
  | .reporting control =>
    if line.controls.isFull then (a, line, .waits)
    else ({ a with stage := .idle }, (line.report control).acknowledge, .continues)
  | .ended _ => (a, line, .ends)

/-- Whether a paused agent has what it waits for. -/
def awake (a : Agent) (line : Line) : Bool :=
  match a.stage with
  | .idle => !line.requests.items.isEmpty
  | .delivering _ => !line.readings.isFull
  | .reporting _ => !line.controls.isFull
  | _ => false

/-- Cancels the agent. A request under way is acknowledged. -/
def cancel (a : Agent) (line : Line) : Agent × Line :=
  match a.stage with
  | .ended _ => (a, line)
  | .idle => ({ a with stage := .ended .cancelled }, line.note .agentCancelled)
  | _ => ({ a with stage := .ended .cancelled }, line.acknowledge.note .agentCancelled)

end Agent

end MeterPolling
