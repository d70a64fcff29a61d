import MeterPolling.Bus
import MeterPolling.Cooperative
import MeterPolling.Preset
/-!
The session that owns the serial line: its preset, its timeout, and the client that talks to the
bus once the port was opened. The timeout is held three times, by the session, by the client, and by
the copy on which the client waits; setting it sets all of them.
-/
namespace MeterPolling

/-- The timeout of a new session, three tenths of a second. -/
def Session.defaultTimeout : Number := .real (.ofQuotient false 3 10)

/-- One client of the bus. -/
structure Client where
  connected : Bool
  timeout : Number
  /-- The copy on which it waits, where it keeps one. -/
  timeoutCopy : Option Number
  /-- The reads it made, the latest first. -/
  calls : List Call

/-- How long the client waits for a reply. -/
def Client.effectiveTimeout (c : Client) : Number := c.timeoutCopy.getD c.timeout

structure Session where
  port : String
  preset : Preset
  verbose : Bool
  timeout : Number
  client : Option Client

/-- One read under way: the wait before it is settled, if any, and how it ends. A wait may be too
long to be waited for. -/
structure Exchange where
  call : Call
  wait : Option Number
  answer : Answer
deriving DecidableEq

/-- The error of a read that nobody answered. -/
def noResponse : ClientError := ⟨.inputOutput, "No response received"⟩

namespace Session

def make (port : String) (preset : Preset) (verbose : Bool) : Session :=
  ⟨port, preset, verbose, defaultTimeout, none⟩

/-- A new session whose preset is given as any value. -/
def construct (port : String) (preset : Setting) (verbose : Bool) : Except Failure Session := do
  return make port (← Preset.ofSetting preset) verbose

def connected (s : Session) : Bool := s.client.any (·.connected)

/-- Sets the timeout everywhere it is held. -/
def setTimeout (s : Session) (timeout : Number) : Session :=
  { s with
    timeout := timeout
    client := s.client.map fun c =>
      { c with timeout := timeout, timeoutCopy := c.timeoutCopy.map fun _ => timeout } }

def newClient (s : Session) (bus : Bus) : Client where
  connected := false
  timeout := s.timeout
  timeoutCopy := if bus.copiesTimeout then some s.timeout else none
  calls := []

/-- Which errors of opening the port are reported as such; any other passes unchanged. -/
def openFailure (s : Session) (e : ClientError) : Failure :=
  if e.kind = .runtime then .client e else .linkOpen s.port (some e)

/-- Opens the port with a new client. A client that could not be constructed leaves the old one in
place; one that could not connect stays. -/
def openPort (s : Session) (bus : Bus) : Session × Except Failure Unit :=
  let client := s.newClient bus
  match bus.opening with
  | .constructionRaises e => (s, .error (s.openFailure e))
  | .connectRaises e => ({ s with client := some client }, .error (s.openFailure e))
  | .connects false => ({ s with client := some client }, .error (.linkOpen s.port none))
  | .connects true => ({ s with client := some { client with connected := true } }, .ok ())

/-- Closes the client, where there is one. -/
def closePort (s : Session) : Session :=
  { s with client := s.client.map fun c => { c with connected := false } }

/-- The two functions that read registers: holding registers and input registers. -/
def isReadFunction (function : Int) : Bool := function == 3 || function == 4

def begin (s : Session) (bus : Bus) (call : Call) : Session × Except Failure Exchange :=
  if !isReadFunction call.function then
    (s, .error (.configuration (.unknownFunction call.function)))
  else
    match s.client with
    | none => (s, .error .missingPart)
    | some client =>
      let exchange : Exchange :=
        match bus.reply client.calls call with
        | .silence => ⟨call, some client.effectiveTimeout, .raised noResponse⟩
        | .answered delay answer => ⟨call, delay, answer⟩
      ({ s with client := some { client with calls := call :: client.calls } }, .ok exchange)

end Session

/-- The two bytes of a register, the leading one first. -/
def registerBytes (word : UInt16) : List UInt8 := [(word >>> 8).toUInt8, word.toUInt8]

namespace Exchange

/-- The pause before the read is settled, unless it is too long. -/
def pause? (x : Exchange) : Option Pause :=
  match x.wait with
  | none => some .continues
  | some delay => Pause.ofDelay? delay

/-- The bytes of a settled read, or why there are none. Only errors of the line's own protocol, and
replies that are no answer to what was asked, are faults of the transport. -/
def settle (x : Exchange) : Except Failure (List UInt8) :=
  let fault (cause : TransportCause) : Failure := .transport ⟨x.call.device, x.call.function, cause⟩
  match x.answer with
  | .raised e => .error (if e.isProtocol then fault (.client e) else .client e)
  | .exception code => .error (fault (.exceptionCode code))
  | .registers words =>
    if (words.length : Int) = x.call.count then .ok (words.flatMap registerBytes)
    else .error (fault (.registerCount x.call.count words.length))
  | .misfit count value =>
    if (count : Int) = x.call.count then .error (.registerValue value)
    else .error (fault (.registerCount x.call.count count))

end Exchange

end MeterPolling
