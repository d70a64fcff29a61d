import MeterPolling.Fault
import MeterPolling.Text.Numeral
/-!
The serial ports that are present, sorted by the number in their names.
-/
namespace MeterPolling.Ports

/-- The characters of a name that stand for digits. -/
def digits (name : String) : List Char := name.toList.filter Text.isDigit

/-- The number formed by the digits of a name, zero without any. Not every digit is a decimal
one. -/
def number (name : String) : Except Failure Int :=
  if (digits name).isEmpty then .ok 0
  else
    match Text.Numeral.readInt? (String.ofList (digits name)) with
    | some n => .ok n
    | none => .error .notNumeric

/-- A name after its number. -/
def numbered (name : String) : Except Failure (Int × String) := do return (← number name, name)

/-- The ports by ascending number; those of one number keep their order. -/
def sorted (present : List String) : Except Failure (List String) := do
  let found ← present.mapM numbered
  return (found.mergeSort fun a b => a.1 ≤ b.1).map (·.2)

end MeterPolling.Ports
