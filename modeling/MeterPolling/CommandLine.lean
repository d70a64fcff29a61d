import MeterPolling.Config
/-!
The command line. Options and devices may be mixed; a long option may be abbreviated as long as it
is the only one that begins so, short ones may share a dash, and a value may be joined to its
option. After two dashes everything is a device. The first mistake ends the reading.
-/
namespace MeterPolling

namespace CommandLine

/-! ## Options -/

/-- The options that take no value. -/
inductive Switch where
  | debug
  | verbose
  | scan
  | help
deriving DecidableEq

/-- The options that take a value. -/
inductive Parameter where
  | port
  | baud
  | serial
  | preset
  | interval
deriving DecidableEq

abbrev Name := Switch ⊕ Parameter

/-- The long names, ascending. -/
def longNames : List (String × Name) := [
  ("--baudrate", .inr .baud),
  ("--comport", .inr .port),
  ("--comset", .inr .preset),
  ("--debug", .inl .debug),
  ("--help", .inl .help),
  ("--interval", .inr .interval),
  ("--scan", .inl .scan),
  ("--serial", .inr .serial),
  ("--verbose", .inl .verbose)]

/-- The letters of the options that have one. -/
def letters : List (Char × Name) := [
  ('b', .inr .baud),
  ('c', .inr .port),
  ('t', .inr .preset),
  ('d', .inl .debug),
  ('h', .inl .help),
  ('i', .inr .interval),
  ('s', .inr .serial),
  ('v', .inl .verbose)]

structure Options where
  debug : Bool
  verbose : Bool
  scan : Bool
  port : Option String
  baud : Option Int
  serial : Option String
  preset : Option Int
  interval : Option Binary64
deriving DecidableEq

/-- The options when none is given. -/
def Options.initial : Options where
  debug := false
  verbose := false
  scan := false
  port := none
  baud := none
  serial := none
  preset := none
  interval := none

/-! ## Mistakes -/

inductive Mistake where
  | unknownOption (written : String)
  | ambiguousOption (written : String) (possible : List String)
  | missingValue (option : String)
  | unexpectedValue (option : String)
  | noInteger (option value : String)
  | noNumber (option value : String)
  | baudRate (value : String)
  | deviceNumber (entry : String)
  | deviceRange (entry : String)
deriving DecidableEq

def Mistake.message : Mistake → String
  | .unknownOption o => "no such option: " ++ o
  | .ambiguousOption o names => "ambiguous option: " ++ o ++ " (" ++ ", ".intercalate names ++ "?)"
  | .missingValue o => o ++ " option requires 1 argument"
  | .unexpectedValue o => o ++ " option does not take a value"
  | .noInteger o v => "option " ++ o ++ ": invalid integer value: " ++ Text.quoted v
  | .noNumber o v => "option " ++ o ++ ": invalid floating-point value: " ++ Text.quoted v
  | .baudRate v =>
    "Invalid baudrate: " ++ v ++ ". Valid values are: "
      ++ ", ".intercalate (Config.baudRates.map toString) ++ "."
  | .deviceNumber e =>
    "Invalid device ID: " ++ e ++ s!". Must be an integer between {Device.first} and {Device.last}."
  | .deviceRange e =>
    "Invalid device ID: " ++ e ++ s!". Valid values are {Device.first} to {Device.last}."

inductive Stop where
  | helped
  | mistaken (mistake : Mistake)
deriving DecidableEq

namespace Stop

def usage : String :=
  "Usage: rtu-poller [options] device_id[:producer] [device_id[:producer] ...]\n"

/-- The options as the help shows them. -/
def optionsHelp : String := "\n".intercalate [
  "Options:",
  "  -h, --help            show this help message and exit",
  "  -d, --debug           Enable debug logging",
  "  -v, --verbose         Log the detail of every failed query",
  "  -c COMPORT, --comport=COMPORT",
  "                        Specify the comport to use",
  "  -b BAUDRATE, --baudrate=BAUDRATE",
  "                        Specify the baudrate (2400, 9600 or 19200)",
  "  -s SERIAL, --serial=SERIAL",
  "                        Specify the serial configuration. Valid values are:",
  "                        8N1, 8E1.",
  "  -t COMSET, --comset=COMSET",
  "                        Communication preset: 1=2400 8N1, 2=9600 8N1, 3=19200",
  "                        8N1, 4=2400 8E1, 5=9600 8E1, 6=19200 8E1",
  "  -i INTERVAL, --interval=INTERVAL",
  "                        Seconds between two polling rounds",
  "  --scan                Scan the bus for known devices and exit",
  ""]

def output : Stop → String
  | .helped => usage ++ "\n" ++ optionsHelp
  | .mistaken _ => ""

def errorOutput : Stop → String
  | .helped => ""
  | .mistaken m => usage ++ "\nrtu-poller: error: " ++ m.message ++ "\n"

def status : Stop → Nat
  | .helped => 0
  | .mistaken _ => 2

end Stop

/-! ## Values -/

/-- A whole number; a leading zero, alone or with a letter, names its base. -/
def readInteger? (value : String) : Option Int :=
  match value.toList with
  | '0' :: mark :: rest =>
    if mark == 'x' || mark == 'X' then Text.Numeral.readInBase? 16 value
    else if mark == 'b' || mark == 'B' then
      if rest.isEmpty then some 0 else Text.Numeral.readInBase? 2 (String.ofList rest)
    else Text.Numeral.readInBase? 8 value
  | ['0'] => some 0
  | _ => Text.Numeral.readInt? value

/-- Sets an option that takes a value. -/
def Options.give (o : Options) (p : Parameter) (written value : String) : Except Stop Options :=
  match p with
  | .port => .ok { o with port := some value }
  | .serial => .ok { o with serial := some value }
  | .preset =>
    match readInteger? value with
    | some n => .ok { o with preset := some n }
    | none => .error (.mistaken (.noInteger written value))
  | .interval =>
    match Text.Numeral.readBinary64? value with
    | some x => .ok { o with interval := some x }
    | none => .error (.mistaken (.noNumber written value))
  | .baud =>
    match Text.Numeral.readInt? value with
    | some n =>
      if Config.baudRates.any fun b => (b : Int) == n then .ok { o with baud := some n }
      else .error (.mistaken (.baudRate value))
    | none => .error (.mistaken (.baudRate value))

/-- Turns on an option that takes no value. -/
def Options.turnOn (o : Options) (s : Switch) : Except Stop Options :=
  match s with
  | .debug => .ok { o with debug := true }
  | .verbose => .ok { o with verbose := true }
  | .scan => .ok { o with scan := true }
  | .help => .error .helped

/-! ## Reading -/

/-- The long option that a text names in full or as its only beginning. -/
def findLong (written : String) : Except Stop (String × Name) :=
  match longNames.lookup written with
  | some name => .ok (written, name)
  | none =>
    match longNames.filter fun e => written.toList.isPrefixOf e.1.toList with
    | [e] => .ok e
    | [] => .error (.mistaken (.unknownOption written))
    | es => .error (.mistaken (.ambiguousOption written (es.map (·.1))))

/-- Reads a long option, with its value after a sign of equality or in the next argument. Tells
whether the next argument was taken. -/
def Options.readLong (o : Options) (argument : List Char) (next? : Option String) :
    Except Stop (Options × Bool) := do
  let (written, joined) := Text.cutAt '=' argument
  let (full, name) ← findLong (String.ofList written)
  match name, argument.contains '=' with
  | .inr p, true => return (← o.give p full (String.ofList joined), false)
  | .inr p, false =>
    match next? with
    | some value => return (← o.give p full value, true)
    | none => throw (.mistaken (.missingValue full))
  | .inl _, true => throw (.mistaken (.unexpectedValue full))
  | .inl s, false => return (← o.turnOn s, false)

/-- Reads the letters after a dash. One that takes a value takes all that follow it, or the next
argument when none do. -/
def Options.readShort (o : Options) (next? : Option String) :
    List Char → Except Stop (Options × Bool)
  | [] => .ok (o, false)
  | c :: rest => do
    let written := String.ofList ['-', c]
    match letters.lookup c with
    | none => throw (.mistaken (.unknownOption written))
    | some (.inl s) => (← o.turnOn s).readShort next? rest
    | some (.inr p) =>
      if !rest.isEmpty then return (← o.give p written (String.ofList rest), false)
      match next? with
      | some value => return (← o.give p written value, true)
      | none => throw (.mistaken (.missingValue written))

/-- Reads the arguments; gives the options and the other arguments in order. -/
def readArguments (o : Options) (arguments : List String) :
    Except Stop (Options × List String) :=
  match arguments with
  | [] => .ok (o, [])
  | argument :: rest =>
    match argument.toList with
    | ['-', '-'] => .ok (o, rest)
    | '-' :: c :: cs => do
      let (o, isTaken) ←
        if c == '-' then o.readLong ('-' :: c :: cs) rest.head?
        else o.readShort rest.head? (c :: cs)
      readArguments o (if isTaken then rest.drop 1 else rest)
    | _ => do
      let (o, others) ← readArguments o rest
      return (o, argument :: others)
termination_by arguments.length
decreasing_by all_goals grind

/-- A device as it was given, with its address in plain digits. -/
def readDevice (entry : String) : Except Stop String :=
  let (device, producer) := Text.cutAt ':' entry.toList
  match Text.Numeral.readInt? (String.ofList device) with
  | none => .error (.mistaken (.deviceNumber entry))
  | some n =>
    if !Device.isValid n then .error (.mistaken (.deviceRange entry))
    else if producer.isEmpty then .ok (toString n)
    else .ok (toString n ++ ":" ++ String.ofList producer)

def read (arguments : List String) : Except Stop (Options × List String) := do
  let (o, entries) ← readArguments .initial arguments
  return (o, ← entries.mapM readDevice)

/-- What the command line says about the configuration. -/
def overrides (o : Options) (devices : List String) : Config.Overrides where
  port := (o.port.map .text).getD .absent
  baud := (o.baud.map fun n => .number (.integer n)).getD .absent
  serial := (o.serial.map .text).getD .absent
  preset := (o.preset.map fun n => .number (.integer n)).getD .absent
  interval := (o.interval.map fun x => .number (.real x)).getD .absent
  devices := .list (devices.map .text)

end CommandLine

end MeterPolling
