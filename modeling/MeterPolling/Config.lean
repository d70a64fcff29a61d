import MeterPolling.Config.Entry
import MeterPolling.Config.File
import MeterPolling.Ports
import MeterPolling.Registry
/-!
The configuration. It is read from a file whose values may be anything, validated, changed by the
command line and written back. Whether its port is present and whether it has changes that were not
saved are kept with it.
-/
namespace MeterPolling

structure Config where
  /-- The settings in the order in which they are written; no key comes twice. -/
  settings : List (String × Setting)
  /-- Whether the port is present. -/
  isUsable : Bool
  /-- Whether the latest change, unless it was saved since, changed a value. -/
  isUnsaved : Bool

namespace Config

/-- The settings that hold when nothing else is given. -/
def defaults : List (String × Setting) := [
  ("com_port", .text ""),
  ("baud", .number (.integer 9600)),
  ("stop", .number (.integer 1)),
  ("parity", .text "N"),
  ("device_ids", .list []),
  ("default_producer", .text "sdm"),
  ("producer_order", .list [.text "sdm", .text "janitza", .text "dzg"]),
  ("poll_interval", .number (.real (.ofQuotient false 5 1)))]

/-- Settings with some values replaced or added. -/
def replaced (settings values : List (String × Setting)) : List (String × Setting) :=
  values.foldl (fun settings e => Setting.putEntry e.1 e.2 settings) settings

def value (settings : List (String × Setting)) (key : String) : Setting :=
  (settings.lookup key).getD .absent

def get (c : Config) (key : String) : Setting := value c.settings key

/-! ## Validation -/

/-- The baud rates that the presets have. -/
def baudRates : List Nat := [2400, 9600, 19200]

/-- The parities that the presets have. -/
def parities : List String := ["N", "E"]

/-- Whether a number or a flag is not above zero; no other value can be compared with it. -/
def isNotPositive (x : Setting) : Except Failure Bool :=
  match x.number? with
  | some n => .ok (n.atMost (.integer 0))
  | none => .error .wrongType

/-- A fault with the text of the value that is at fault. -/
def refuse {α : Type} (fault : String → SettingFault) (x : Setting) : Except Failure α :=
  .error (.setting (match x.shown with
    | .ok text => fault text
    | .error why => .textless why))

/-- Checks the settings in a fixed order; the first invalid one is reported. -/
def validate (settings : List (String × Setting)) : Except Failure Unit := do
  let baud := value settings "baud"
  if !(baudRates.any fun b => (Setting.number (.integer b)).same baud) then
    refuse .baudRate baud
  let stop := value settings "stop"
  if !(Setting.number (.integer 1)).same stop then refuse .stopBits stop
  let parity := value settings "parity"
  if !(parities.any fun p => (Setting.text p).same parity) then
    refuse .parity parity
  let interval := value settings "poll_interval"
  if ← isNotPositive interval then refuse .pollInterval interval
  for entry in ← elements (value settings "device_ids") do
    match parseDevice entry (value settings "default_producer") with
    | .ok _ => pure ()
    | .error fault => throw (.setting fault)

/-! ## Loading -/

/-- Whether a setting names one of the ports. -/
def isPresent (port : Setting) (ports : List String) : Bool :=
  match port with
  | .text name => ports.contains name
  | _ => false

/-- The configuration with these settings, as it is right after loading. -/
def ofSettings (settings : List (String × Setting)) (present : List String) :
    Except Failure Config := do
  let ports ← Ports.sorted present
  return ⟨settings, isPresent (value settings "com_port") ports, false⟩

/-- The settings in a file, on top of the defaults. What cannot be read, or is not valid, is
reported, and the defaults hold. -/
def readSettings (format : Format) (file : File) :
    List Notice × Except Failure (List (String × Setting)) :=
  match file with
  | .missing => ([], .ok defaults)
  | .blocked => ([.configurationUnreadable "the file cannot be read"], .ok defaults)
  | .content bytes =>
    match File.decode? bytes with
    | none => ([], .error .undecodable)
    | some text =>
      match format.read text with
      | .error (.broken f) => ([], .error f)
      | .error .malformed => ([.configurationMalformed "the text is malformed"], .ok defaults)
      | .ok loaded =>
        let settings := replaced defaults loaded
        match validate settings with
        | .ok _ => ([], .ok settings)
        | .error (.setting fault) => ([.configurationInvalid fault], .ok defaults)
        | .error _ => ([.configurationIllTyped "a value has the wrong type"], .ok defaults)

def load (format : Format) (file : File) (present : List String) :
    List Notice × Except Failure Config :=
  let (notices, settings) := readSettings format file
  (notices, settings.bind fun settings => ofSettings settings present)

/-! ## Changes -/

/-- Replaces and adds values. Also when the ports cannot be listed afterwards, the values are
changed. -/
def update (c : Config) (values : List (String × Setting)) (present : List String) :
    Config × Except Failure Unit :=
  let isChanged := values.any fun e => !((c.settings.lookup e.1).any fun old => old.same e.2)
  let c := { c with settings := replaced c.settings values, isUnsaved := isChanged }
  match Ports.sorted present with
  | .ok ports => ({ c with isUsable := isPresent (c.get "com_port") ports }, .ok ())
  | .error f => (c, .error f)

/-- What the command line says about the configuration. What it does not say is absent. -/
structure Overrides where
  port : Setting
  baud : Setting
  serial : Setting
  preset : Setting
  interval : Setting
  devices : Setting

/-- Parity and stop bits from a text such as 8N1, with eight data bits. -/
def ofSerialText (text : String) : Except Failure (List (String × Setting)) :=
  match (Text.upper text).toList with
  | ['8', parity, stop] =>
    if !Text.isDigit stop then .error (.configuration (.serialText text))
    else
      match Text.Numeral.readInt? (String.singleton stop) with
      | some n =>
        .ok [("stop", .number (.integer n)), ("parity", .text (String.singleton parity))]
      | none => .error .notNumeric
  | _ => .error (.configuration (.serialText text))

/-- Baud rate, parity and stop bits from a preset. -/
def ofPreset (x : Setting) : Except Failure (List (String × Setting)) := do
  let preset ← Preset.ofSetting x
  return [("baud", .number (.integer preset.baud)), ("parity", .text preset.parity),
    ("stop", .number (.integer 1))]

/-- A value for a setting, unless it is absent, zero or empty. -/
def given (key : String) (x : Setting) : List (String × Setting) :=
  if x.isGiven then [(key, x)] else []

/-- What the serial text says; nothing but a text can be taken apart. -/
def Overrides.serialPart (o : Overrides) : Except Failure (List (String × Setting)) :=
  match o.serial with
  | .text text => if text.isEmpty then .ok [] else ofSerialText text
  | x => if x.isGiven then .error .missingPart else .ok []

def Overrides.presetPart (o : Overrides) : Except Failure (List (String × Setting)) :=
  match o.preset with
  | .absent => .ok []
  | x => ofPreset x

def Overrides.intervalPart (o : Overrides) : List (String × Setting) :=
  match o.interval with
  | .absent => []
  | x => [("poll_interval", x)]

def Overrides.deviceList (o : Overrides) : Except Failure (List Setting) :=
  if o.devices.isGiven then elements o.devices else .ok []

/-- The values that the overrides give; later ones win. -/
def Overrides.values (o : Overrides) : Except Failure (List (String × Setting)) := do
  let serial ← o.serialPart
  let preset ← o.presetPart
  let devices ← o.deviceList
  return replaced [] (given "com_port" o.port ++ given "baud" o.baud ++ serial ++ preset ++
    o.intervalPart ++ given "device_ids" (.list devices))

/-- Applies overrides all together, or not at all when the result would not be valid. -/
def override (c : Config) (o : Overrides) (present : List String) : Config × Except Failure Unit :=
  match o.values with
  | .error f => (c, .error f)
  | .ok [] => (c, .ok ())
  | .ok values =>
    match validate (replaced c.settings values) with
    | .error (.setting fault) => (c, .error (.configuration (.override fault)))
    | .error f => (c, .error f)
    | .ok _ => c.update values present

/-- Writes the configuration. A file that cannot be written is reported; one that was opened
already is empty when the settings have no written form. -/
def save (c : Config) (format : Format) (file : File) :
    Config × File × List Notice × Except Failure Unit :=
  match file with
  | .blocked => (c, file, [.configurationNotSaved "the file cannot be written"], .ok ())
  | _ =>
    match format.write c.settings with
    | .ok text =>
      ({ c with isUnsaved := false }, File.ofText text, [.configurationSaved], .ok ())
    | .error f => (c, File.ofText "", [], .error f)

/-! ## What the settings say -/

def preset (c : Config) : Except Failure Preset := Preset.ofSerial (c.get "baud") (c.get "parity")

/-- The text of a value that is looked up among names; no list and no table can be. -/
def lookupText (x : Setting) : Except Failure String :=
  match x with
  | .list _ | .table _ => .error .wrongType
  | _ => x.shown.mapError .textless

/-- The producer that a setting names; only a text does. -/
def producer (registry : Registry) (name : Setting) : Except Failure Producer := do
  let text ← lookupText name
  if name matches .text _ then registry.get text
  else throw (.configuration (.unknownProducer text registry.names))

/-- The devices to poll, each with its producer. -/
def devices (c : Config) (registry : Registry) : Except Failure (List (Int × Producer)) := do
  (← elements (c.get "device_ids")).mapM fun entry =>
    match parseDevice entry (c.get "default_producer") with
    | .ok (device, name) => do return (device, ← producer registry name)
    | .error fault => .error (.setting fault)

/-- The producers in the order in which they are tried on unknown devices. -/
def probingOrder (c : Config) (registry : Registry) : Except Failure (List Producer) := do
  let order ← elements (c.get "producer_order")
  let names ← order.mapM lookupText
  for name in order do
    let _ ← producer registry name
  registry.ordered names

end Config

end MeterPolling
