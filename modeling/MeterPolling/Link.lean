import MeterPolling.Notice
import MeterPolling.Session
/-!
The link: the session with its bus, the counters, the clock, and the journal of all that happened in
the order in which it happened. A query on the link is begun and settled in two steps, because the
device takes its time between them.
-/
namespace MeterPolling

/-- What can be observed of the program at work. -/
inductive Event where
  /-- The client was asked, and waits this long for a reply. -/
  | called (call : Call) (timeout : Number)
  | closed
  | queued (request : Request)
  | delivered (reading : Reading)
  | reported (control : Control)
  | noted (notice : Notice)
deriving DecidableEq

structure Entry where
  time : Binary64
  event : Event
deriving DecidableEq

structure Link where
  bus : Bus
  session : Session
  /-- Whether each failed query is reported. -/
  verbose : Bool
  counters : Counters
  now : Binary64
  /-- The latest entry first. -/
  journal : List Entry

namespace Link

/-- A link that was not used yet. -/
def make (bus : Bus) (session : Session) (verbose : Bool) : Link where
  bus := bus
  session := session
  verbose := verbose
  counters := .fresh
  now := .zero
  journal := []

def record (link : Link) (event : Event) : Link :=
  { link with journal := ⟨link.now, event⟩ :: link.journal }

def note (link : Link) (notice : Notice) : Link := link.record (.noted notice)

def openPort (link : Link) : Link × Except Failure Unit :=
  let link :=
    if link.session.verbose then link.note (.connecting link.session.port link.session.preset)
    else link
  let (session, result) := link.session.openPort link.bus
  let link := { link with session := session }
  (if result matches .ok _ then link.note .connected else link, result)

/-- Closes the port, where there is a client to close. -/
def closePort (link : Link) : Link :=
  let closed := { link with session := link.session.closePort }
  if link.session.client.isSome then closed.record .closed else closed

def setTimeout (link : Link) (timeout : Number) : Link :=
  { link with session := link.session.setTimeout timeout }

/-- Hands a read to the client. -/
def beginRead (link : Link) (call : Call) : Link × Except Failure Exchange :=
  let (session, result) := link.session.begin link.bus call
  let timeout := (link.session.client.map (·.effectiveTimeout)).getD link.session.timeout
  let link := { link with session := session }
  (if result matches .ok _ then link.record (.called call timeout) else link, result)

/-- Begins a query. A request that no device can answer is refused before it counts. -/
def beginQuery (link : Link) (request : Request) : Link × Except Failure Exchange :=
  if request.count ≤ 0 then
    match request.name? with
    | some name => (link, .error (.configuration (.malformedRequest name)))
    | none => (link, .error .tooLarge)
  else if !Session.isReadFunction request.function then
    (link, .error (.configuration (.unknownFunction request.function)))
  else
    let link := { link with counters := link.counters.addRequest }
    link.beginRead ⟨request.function, request.address, request.count, request.device⟩

/-- Settles a query once its wait is over. -/
def settleQuery (link : Link) (exchange : Exchange) : Link × Except Failure (List UInt8) :=
  match exchange.settle with
  | .error (.transport fault) =>
    let notice := .queryFailed exchange.call.device exchange.call.address fault
    (if link.verbose then link.note notice else link, .error (.transport fault))
  | result => (link, result)

/-- The time at which a pause that begins now is over. -/
def after (now : Binary64) (pause : Number) : Binary64 :=
  if Number.less 0 pause then now + pause.toBinary64 else now

/-- Lets an exchange take its time, with nothing else going on; nothing when it cannot. -/
def await? (link : Link) (exchange : Exchange) : Option Link := do
  match ← exchange.pause? with
  | .sleeps delay => return { link with now := link.now + delay }
  | _ => return link

/-- A whole query, with nothing else going on. -/
def query (link : Link) (request : Request) : Link × Except Failure (List UInt8) :=
  match link.beginQuery request with
  | (link, .error f) => (link, .error f)
  | (link, .ok exchange) =>
    match link.await? exchange with
    | some link => link.settleQuery exchange
    | none => (link, .error .tooLarge)

/-- A whole read, with nothing else going on. -/
def read (link : Link) (call : Call) : Link × Except Failure (List UInt8) :=
  match link.beginRead call with
  | (link, .error f) => (link, .error f)
  | (link, .ok exchange) =>
    match link.await? exchange with
    | some link => (link, exchange.settle)
    | none => (link, .error .tooLarge)

end Link

end MeterPolling
