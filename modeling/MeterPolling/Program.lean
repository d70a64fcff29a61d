import MeterPolling.CommandLine
import MeterPolling.Config.Startup
import MeterPolling.Polling.Alone
import MeterPolling.Scanner.Alone
/-!
The program from its command line to its end. It prepares the configuration, opens the port, scans
or polls until it is interrupted, and closes the port however that ended. Defects of the deployment
are reported before it stops; any other failure is left to whoever started it.
-/
namespace MeterPolling

namespace Program

/-- What the program finds when it starts. -/
structure Surroundings where
  format : Config.Format
  file : Config.File
  /-- The serial ports that are present. -/
  ports : List String
  bus : Bus
  /-- After how many seconds the program is interrupted. -/
  limit : Number

/-- How the program ends. -/
inductive Outcome where
  /-- The command line asks for help or is mistaken. -/
  | notStarted (stop : CommandLine.Stop)
  | finished
  | interrupted
  /-- A defect of the deployment was reported. -/
  | refused
  | failed (failure : Failure)
deriving DecidableEq

/-- The status that the program gives back, unless it fails. -/
def Outcome.status? : Outcome → Option Nat
  | .notStarted stop => some stop.status
  | .finished | .interrupted => some 0
  | .refused => some 1
  | .failed _ => none

structure Run where
  outcome : Outcome
  /-- The file of the configuration afterwards. -/
  file : Config.File
  session : Option Session
  now : Binary64
  /-- The latest entry first. -/
  journal : List Entry
  /-- The least severe level that is logged. -/
  threshold : Level

namespace Run

def note (r : Run) (notice : Notice) : Run :=
  { r with journal := ⟨r.now, .noted notice⟩ :: r.journal }

/-- What is logged, in order: the notices that are severe enough. -/
def logged (r : Run) : List (Binary64 × Notice) :=
  r.journal.reverse.filterMap fun entry =>
    match entry.event with
    | .noted n => if r.threshold.severity ≤ n.level.severity then some (entry.time, n) else none
    | _ => none

/-- Ends with a failure, which is reported when it is a defect of the deployment. -/
def fail (r : Run) (f : Failure) : Run :=
  match f.isConfiguration, f.message? with
  | true, some message => { r.note (.stopped message) with outcome := .refused }
  | _, _ => { r with outcome := .failed f }

def after (r : Run) (link : Link) : Run :=
  { r with session := some link.session, now := link.now, journal := link.journal }

end Run

/-- What the program is to do on an open port. -/
inductive Work where
  /-- Nothing, for it cannot be said what. -/
  | failing (failure : Failure)
  | scanning (scanner : Scanner)
  | polling (p : Polling)

/-- How the work on an open port ended. -/
inductive Ending where
  | done
  | cut
  | broken (failure : Failure)

/-- The text of a value, where it has one. The port of a configuration that is used is a text, and
an interval without a text is never shown: it is longer than any round. -/
def shownText (x : Setting) : String := x.shown.toOption.getD ""

/-- The tasks that poll the devices of a configuration. -/
def crew (c : Config) (devices : List (Int × Producer)) (link : Link) : Polling :=
  let interval := c.get "poll_interval"
  .make (.make link 0 0 0) (.make .default)
    (.make devices (interval.number?.getD 0) (shownText interval))

/-- What a configuration asks for, to scan or else to poll. -/
def plan (c : Config) (scan : Bool) (link : Link) : Work :=
  if scan then
    match c.probingOrder .shipped with
    | .error f => .failing f
    | .ok producers =>
      .scanning (.make producers Scanner.defaultTimeout Scanner.defaultProbeDelay)
  else
    match c.devices .shipped with
    | .error f => .failing f
    | .ok [] => .failing (.configuration .noDevices)
    | .ok devices => .polling (crew c devices link)

def scanEnding (s : Scanner) : Ending :=
  match s.stage with
  | .failed f => .broken f
  | .cancelled => .cut
  | _ => .done

def pollEnding (p : Polling) : Ending :=
  match p.failure with
  | some f => .broken f
  | none => .cut

/-- Does the work until it is over or is interrupted at the limit. -/
def Work.run (limit : Number) (link : Link) : Work → Link × Ending
  | .failing f => (link, .broken f)
  | .scanning scanner =>
    let (scanner, link) := scanner.runFor limit link
    (link, scanEnding scanner)
  | .polling p =>
    let p := p.run limit
    (p.line.link, pollEnding p)

/-- The link on which the port is opened. -/
def firstLink (c : Config) (o : CommandLine.Options) (s : Surroundings) (r : Run)
    (preset : Preset) : Link :=
  { Link.make s.bus (.make (shownText (c.get "com_port")) preset o.verbose) o.verbose with
    journal := r.journal }

def Run.conclude (r : Run) : Ending → Run
  | .done => { r with outcome := .finished }
  | .cut => { r.note .interrupted with outcome := .interrupted }
  | .broken f => r.fail f

def operate (c : Config) (o : CommandLine.Options) (s : Surroundings) (r : Run) : Run :=
  match c.preset with
  | .error f => r.fail f
  | .ok preset =>
    match (firstLink c o s r preset).openPort with
    | (link, .error f) => (r.after link).fail f
    | (link, .ok _) =>
      let (link, ending) := (plan c o.scan link).run s.limit link
      (r.after link.closePort).conclude ending

def run (arguments : List String) (s : Surroundings) : Run :=
  let start : Run := ⟨.finished, s.file, none, .zero, [], .warning⟩
  match CommandLine.read arguments with
  | .error stop => { start with outcome := .notStarted stop }
  | .ok (o, devices) =>
    let startup := Config.prepare s.format s.file s.ports (CommandLine.overrides o devices)
    let r := { start with file := startup.file, threshold := if o.debug then .debug else .info }
    let r := startup.notices.foldl Run.note r
    match startup.result with
    | .error f => r.fail f
    | .ok c => operate c o s r

end Program

end MeterPolling
