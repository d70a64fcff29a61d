import MeterPolling.Counters
import MeterPolling.Label
import MeterPolling.Preset
/-!
What the program reports while it runs. A notice carries what happened; who reports it, how severe
it is and how it is worded are functions of the notice.
-/
namespace MeterPolling

inductive Level where
  | debug
  | info
  | warning
  | error
  | critical
deriving DecidableEq

def Level.name : Level → String
  | .debug => "DEBUG"
  | .info => "INFO"
  | .warning => "WARNING"
  | .error => "ERROR"
  | .critical => "CRITICAL"

/-- How severe a level is. -/
def Level.severity : Level → Nat
  | .debug => 0
  | .info => 1
  | .warning => 2
  | .error => 3
  | .critical => 4

/-- The part of the program that reports. -/
inductive Reporter where
  | program
  | configuration
  | discovery
  | session
  | executor
  | agent
  | scanner
  | scheduler
  | readings
  | controls
deriving DecidableEq

def Reporter.name : Reporter → String
  | .program | .readings | .controls => "rtu_poller"
  | .configuration => "rtu_poller.config"
  | .discovery => "rtu_poller.producers.factory"
  | .session => "rtu_poller.modbus.session"
  | .executor => "rtu_poller.modbus.executor"
  | .agent => "rtu_poller.modbus.agent"
  | .scanner => "rtu_poller.modbus.scanner"
  | .scheduler => "rtu_poller.scheduler"

inductive Notice where
  | connecting (port : String) (preset : Preset)
  | connected
  | queryFailed (device address : Int) (fault : TransportFault)
  | retrying (device : Int) (attempt limit : Nat)
  | agentCancelled
  | roundQueued (count : Nat)
  | roundOverran (elapsed : Binary64) (interval : String)
  | readingTaken (reading : Reading)
  | controlTaken (control : Control) (counters : Counters) (uptime : Binary64)
  | scanStarted
  | deviceFound (device : Int) (type : String) (label : Option String) (value : Binary64)
  | deviceAbsent (device : Int)
  | scanSummary (line : String)
  | packageBroken (package : String)
  | packageSkipped (package : String)
  | configurationSaved
  | configurationNotSaved (reason : String)
  | configurationMalformed (reason : String)
  | configurationUnreadable (reason : String)
  | configurationInvalid (fault : SettingFault)
  | configurationIllTyped (reason : String)
  | stopped (message : String)
  | interrupted
deriving DecidableEq

namespace Notice

def reporter : Notice → Reporter
  | .connecting .. | .connected => .session
  | .queryFailed .. => .executor
  | .retrying .. | .agentCancelled => .agent
  | .roundQueued _ | .roundOverran .. => .scheduler
  | .readingTaken _ => .readings
  | .controlTaken .. => .controls
  | .scanStarted | .deviceFound .. | .deviceAbsent _ | .scanSummary _ => .scanner
  | .packageBroken _ | .packageSkipped _ => .discovery
  | .configurationSaved | .configurationNotSaved _ | .configurationMalformed _
  | .configurationUnreadable _ | .configurationInvalid _ | .configurationIllTyped _ =>
    .configuration
  | .stopped _ | .interrupted => .program

def level : Notice → Level
  | .roundQueued _ | .controlTaken (.answered _) .. => .debug
  | .retrying .. | .roundOverran .. => .warning
  | .controlTaken (.silent _) .. | .packageBroken _ | .packageSkipped _ | .configurationNotSaved _
  | .configurationMalformed _ | .configurationUnreadable _ | .configurationInvalid _
  | .configurationIllTyped _ => .error
  | .stopped _ => .critical
  | _ => .info

/-- The counters as the report of a silent device shows them. -/
def countersText (c : Counters) (uptime : Binary64) : String :=
  "\x7b'requests': " ++ toString c.requests ++ ", 'reconnects': " ++ toString c.reconnects
    ++ ", 'uptime': " ++ Decimal.text uptime ++ "\x7d"

/-- The wording up to the reason, for a notice that passes on a reason given by the system. -/
def opening : Notice → String
  | .configurationNotSaved _ => "Error saving configuration: "
  | .configurationMalformed _ => "Error loading configuration: "
  | .configurationUnreadable _ => "Unexpected error loading configuration: "
  | .configurationInvalid _ | .configurationIllTyped _ => "Configuration error: "
  | _ => ""

def text (n : Notice) : String :=
  match n with
  | .connecting port preset => "Connecting to RTU via " ++ port ++ ", " ++ preset.text
  | .connected => "Modbus client connected"
  | .queryFailed device address fault =>
    s!"Device {device}: failed to retrieve opcode 0x{Decimal.plainHexText address}, "
      ++ "error was: " ++ fault.message
  | .retrying device attempt limit =>
    s!"Device {device} failed to respond - retry attempt {attempt} of {limit}"
  | .agentCancelled => "Agent cancelled - exiting"
  | .roundQueued count => s!"Queued {count} requests"
  | .roundOverran elapsed interval =>
    s!"Polling round took {Decimal.fixedText 1 elapsed}s, longer than the {interval}s interval"
  | .readingTaken r =>
    s!"Device {r.request.device}: {Label.describe r.request.label}: {Decimal.fixedText 2 r.value}"
  | .controlTaken (.answered device) _ _ => s!"Device {device}: OK"
  | .controlTaken c counters uptime => c.message ++ " (" ++ countersText counters uptime ++ ")"
  | .scanStarted => "Starting bus scan"
  | .deviceFound device type label value =>
    s!"Device {device}: {type} type device found, " ++
      s!"{Label.describe label}: {Decimal.fixedText 2 value}"
  | .deviceAbsent device => s!"Device {device}: n/a"
  | .scanSummary line => line
  | .packageBroken package => "Failed to import producer package " ++ package
  | .packageSkipped package => "Skipping " ++ package ++ " (missing PRODUCER)"
  | .configurationSaved => "Configuration saved successfully."
  | .configurationNotSaved reason | .configurationMalformed reason
  | .configurationUnreadable reason | .configurationIllTyped reason => n.opening ++ reason
  | .configurationInvalid fault => n.opening ++ fault.message
  | .stopped message => message
  | .interrupted => "Interrupted"

end Notice

end MeterPolling
