import MeterPolling.Device
import MeterPolling.Fault
import MeterPolling.Setting
import MeterPolling.Text.Pieces
/-!
The devices to poll, as settings name them: the address of the device and after a colon the name of
its producer, which may be left out.
-/
namespace MeterPolling.Config

/-- The address of a device and the name of its producer, or the default one. -/
def parseDevice (entry fallback : Setting) : Except SettingFault (Int × Setting) :=
  match entry.shown with
  | .error why => .error (.textless why)
  | .ok text =>
    let (device, producer) := Text.cutAt ':' text.toList
    match Text.Numeral.readInt? (String.ofList device) with
    | none => .error (.device text)
    | some n =>
      if !Device.isValid n then .error (.deviceRange text)
      else .ok (n, if producer.isEmpty then fallback else .text (String.ofList producer))

/-- What a setting consists of: the elements of a list, the characters of a text, the keys of a
table. -/
def elements : Setting → Except Failure (List Setting)
  | .list items => .ok items
  | .text s => .ok (s.toList.map fun c => .text (String.singleton c))
  | .table entries => .ok (entries.map fun e => .text e.1)
  | _ => .error .wrongType

end MeterPolling.Config
