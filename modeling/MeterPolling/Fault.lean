import MeterPolling.Request
import MeterPolling.Text.Fault
import MeterPolling.Text.Quoted
/-!
All that can go wrong, by cause. The wording of a fault is in one function beside its type, and what
stops the program (`Failure`) stays apart from what is only retried (`TransportFault`).
-/
namespace MeterPolling

/-- The kinds of error raised by the client that drives the line. -/
inductive ClientErrorKind where
  | inputOutput
  | connection
  | protocol
  | system
  | value
  | runtime
deriving DecidableEq

structure ClientError where
  kind : ClientErrorKind
  message : String
deriving DecidableEq

namespace ClientError

/-- Whether the error belongs to the protocol of the line; only such an error may be retried. -/
def isProtocol (e : ClientError) : Bool :=
  match e.kind with
  | .inputOutput | .connection | .protocol => true
  | _ => false

def text (e : ClientError) : String :=
  match e.kind with
  | .inputOutput => "Modbus Error: [Input/Output] " ++ e.message
  | .connection => "Modbus Error: [Connection] " ++ e.message
  | .protocol => "Modbus Error: " ++ e.message
  | _ => e.message

end ClientError

/-- Why one exchange on the line gave no registers. -/
inductive TransportCause where
  | client (error : ClientError)
  | exceptionCode (code : Int)
  | registerCount (expected : Int) (got : Nat)
deriving DecidableEq

/-- A failed exchange, with the device and the function that were asked. -/
structure TransportFault where
  device : Int
  function : Int
  cause : TransportCause
deriving DecidableEq

namespace TransportFault

/-- Whether the device did not answer in time; anything else is a fault of the link. -/
def isTimeout (f : TransportFault) : Bool :=
  match f.cause with
  | .client e => e.kind == .inputOutput
  | _ => false

def message (f : TransportFault) : String :=
  match f.cause with
  | .client e => e.text
  | .exceptionCode code => s!"Exception code {code}"
  | .registerCount expected got => s!"Expected {expected} registers, got {got}"

end TransportFault

/-- A value that a setting must not have. The value is kept as its text, or else why it has none. -/
inductive SettingFault where
  | baudRate (shown : String)
  | stopBits (shown : String)
  | parity (shown : String)
  | pollInterval (shown : String)
  | device (shown : String)
  | deviceRange (shown : String)
  | textless (why : Text.Fault)
deriving DecidableEq

def SettingFault.message : SettingFault → String
  | .baudRate x => "Invalid baud rate: " ++ x
  | .stopBits x => "Invalid stop bits: " ++ x
  | .parity x => "Invalid parity: " ++ x
  | .pollInterval x => "Invalid poll interval: " ++ x
  | .device x => "Invalid device ID: " ++ x
  | .deviceRange x => "Device ID out of range: " ++ x
  | .textless why => why.message

/-- A defect of the deployment or of a request; never retried. -/
inductive ConfigurationFault where
  | malformedRequest (name : String)
  | unknownFunction (function : Int)
  | unknownPreset (quoted : String) (known : List Nat)
  | noPresetFor (baud parity : String)
  | unknownProducer (name : String) (known : List String)
  | serialText (text : String)
  | override (fault : SettingFault)
  | noPort
  | portNotFound (port : String) (available : List String)
  | noDevices
deriving DecidableEq

def ConfigurationFault.message : ConfigurationFault → String
  | .malformedRequest name => "Invalid meter operation " ++ name ++ "."
  | .unknownFunction f => s!"Unknown function code {f} - cannot query device."
  | .unknownPreset quoted known =>
    "Invalid communication set " ++ quoted ++ ". Valid values are: "
      ++ ", ".intercalate (known.map toString) ++ "."
  | .noPresetFor baud parity =>
    "No communication set for " ++ baud ++ " baud, parity " ++ parity
  | .unknownProducer name known =>
    "Unknown producer '" ++ name ++ "'. Valid values are: " ++ ", ".intercalate known ++ "."
  | .serialText text => "Invalid serial configuration: " ++ text
  | .override fault => "Command line override error: " ++ fault.message
  | .noPort => "No serial port configured. Use -c to set one."
  | .portNotFound port available =>
    let ports := ", ".intercalate available
    "Serial port " ++ port ++ " not found. Available ports: "
      ++ (if ports.isEmpty then "none" else ports) ++ "."
  | .noDevices => "No devices to poll. Use --scan to find some."

/-- Anything that ends an activity. -/
inductive Failure where
  | configuration (fault : ConfigurationFault)
  | linkOpen (port : String) (reason : Option ClientError)
  | transport (fault : TransportFault)
  | decoding (fault : DecodeFault)
  | setting (fault : SettingFault)
  | client (error : ClientError)
  /-- A register whose value is no word of sixteen bits. -/
  | registerValue (value : Int)
  /-- A producer has no register of this label. -/
  | unknownLabel (label : String)
  /-- The line is used before it was opened, or a value lacks what is asked of it. -/
  | missingPart
  | wrongType
  | tooLarge
  /-- A text of digits that is no decimal numeral. -/
  | notNumeric
  /-- A text over several lines under the empty name. -/
  | unnamedText
  /-- Bytes that are no text. -/
  | undecodable
  /-- A position past the end of a text that is read. -/
  | pastEnd (ofList : Bool)
deriving DecidableEq

namespace Failure

/-- The wording, where the failure has one of its own. -/
def message? : Failure → Option String
  | .configuration f => some f.message
  | .linkOpen port none => some ("Failed to connect to " ++ port)
  | .linkOpen port (some e) => some ("Failed to connect to " ++ port ++ ": " ++ e.text)
  | .transport f => some f.message
  | .decoding f => f.message?
  | .setting f => some f.message
  | .client e => some e.text
  | .registerValue x =>
    some (if 0 ≤ x && x < 0x10000000000000000 then "'H' format requires 0 <= number <= 65535"
      else "argument out of range")
  | .unknownLabel label => some (Text.quoted label)
  | .unnamedText =>
    some "cannot access local variable 'value' where it is not associated with a value"
  | .pastEnd ofList => some ((if ofList then "list" else "string") ++ " index out of range")
  | .missingPart | .wrongType | .tooLarge | .notNumeric | .undecodable => none

/-- A value that is to be written has no text. -/
def textless (why : Text.Fault) : Failure := .setting (.textless why)

/-- Whether it is a defect of the deployment, which the program reports before it stops. -/
def isConfiguration : Failure → Bool
  | .configuration _ | .linkOpen .. => true
  | _ => false

end Failure

end MeterPolling
