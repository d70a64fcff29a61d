import MeterPolling.Fault
import MeterPolling.Setting
/-!
The communication presets of the serial line: baud rate and parity, always with eight data bits and
one stop bit.
-/
namespace MeterPolling

inductive Preset where
  | b2400n
  | b9600n
  | b19200n
  | b2400e
  | b9600e
  | b19200e
deriving DecidableEq

namespace Preset

def all : List Preset := [.b2400n, .b9600n, .b19200n, .b2400e, .b9600e, .b19200e]

def value : Preset → Nat
  | .b2400n => 1
  | .b9600n => 2
  | .b19200n => 3
  | .b2400e => 4
  | .b9600e => 5
  | .b19200e => 6

def baud : Preset → Nat
  | .b2400n | .b2400e => 2400
  | .b9600n | .b9600e => 9600
  | .b19200n | .b19200e => 19200

def parity : Preset → String
  | .b2400n | .b9600n | .b19200n => "N"
  | .b2400e | .b9600e | .b19200e => "E"

def name (p : Preset) : String := s!"B{p.baud}_8{p.parity}1"

def text (p : Preset) : String := s!"{p.baud} 8{p.parity}1"

/-- The preset with this number, be it written as a number, a flag or a numeral. An infinity is
refused by its size alone. -/
def ofSetting (x : Setting) : Except Failure Preset :=
  let refused : Failure :=
    match x.quoted with
    | .ok text => .configuration (.unknownPreset text (all.map value))
    | .error why => .textless why
  match x.toInt with
  | .error .tooLarge => .error .tooLarge
  | .error _ => .error refused
  | .ok n =>
    match all.find? fun p => (p.value : Int) == n with
    | some p => .ok p
    | none => .error refused

/-- The preset with this baud rate and parity; the case of the parity does not matter. -/
def ofSerial (baud parity : Setting) : Except Failure Preset :=
  match parity with
  | .text letter =>
    match all.find? fun p =>
      (Setting.number (.integer p.baud)).same baud && p.parity == Text.upper letter with
    | some p => .ok p
    | none =>
      match baud.shown with
      | .ok text => .error (.configuration (.noPresetFor text letter))
      | .error why => .error (.textless why)
  | _ => .error .missingPart

end Preset

end MeterPolling
