/-!
Plain descriptions of the IEC 61850 labels that the meter families use.
-/
namespace MeterPolling.Label

def descriptions : List (String × String) := [
  ("VolLocPhsA", "L1 Voltage (V)"),
  ("VolLocPhsB", "L2 Voltage (V)"),
  ("VolLocPhsC", "L3 Voltage (V)"),
  ("AmpLocPhsA", "L1 Current (A)"),
  ("AmpLocPhsB", "L2 Current (A)"),
  ("AmpLocPhsC", "L3 Current (A)"),
  ("WLocPhsA", "L1 Power (W)"),
  ("WLocPhsB", "L2 Power (W)"),
  ("WLocPhsC", "L3 Power (W)"),
  ("AngLocPhsA", "L1 Power factor"),
  ("AngLocPhsB", "L2 Power factor"),
  ("AngLocPhsC", "L3 Power factor"),
  ("Freq", "Frequency of supply voltages (Hz)"),
  ("TotkWhImport", "Total import (kWh)"),
  ("TotkWhExport", "Total export (kWh)")]

/-- A label without a description describes itself; a reading without a label is a value. -/
def describe : Option String → String
  | none => "Value"
  | some label => if label.isEmpty then "Value" else (descriptions.lookup label).getD label

end MeterPolling.Label
