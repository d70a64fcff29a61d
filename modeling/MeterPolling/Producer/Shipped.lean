import MeterPolling.Producer
/-!
The families of meters that are known without any further package.
-/
namespace MeterPolling.Producer

/-- DZG DVH4013 meters: unsigned integers in holding registers, scaled by a power of ten. -/
def dzg : Producer where
  kind := "DZGProducer"
  meterType := "DZG"
  function := 3
  probeLabel := "VolLocPhsA"
  registers := [
    ("VolLocPhsA", ⟨0x0000, .scaled32 100⟩),
    ("VolLocPhsB", ⟨0x0002, .scaled32 100⟩),
    ("VolLocPhsC", ⟨0x0004, .scaled32 100⟩),
    ("AmpLocPhsA", ⟨0x000c, .scaled32 1000⟩),
    ("AmpLocPhsB", ⟨0x000e, .scaled32 1000⟩),
    ("AmpLocPhsC", ⟨0x0010, .scaled32 1000⟩),
    ("WLocPhsA", ⟨0x001e, .scaled32 100⟩),
    ("WLocPhsB", ⟨0x0020, .scaled32 100⟩),
    ("WLocPhsC", ⟨0x0022, .scaled32 100⟩),
    ("Freq", ⟨0x0014, .scaled16 100⟩),
    ("TotkWhImport", ⟨0x4000, .scaled32 1000⟩),
    ("TotkWhExport", ⟨0x4020, .scaled32 1000⟩)]

/-- Janitza B23 meters: binary32 numbers in holding registers. -/
def janitza : Producer where
  kind := "JanitzaProducer"
  meterType := "JANITZA"
  function := 3
  probeLabel := "VolLocPhsA"
  registers := [
    ("VolLocPhsA", ⟨0x4a38, .raw32⟩),
    ("VolLocPhsB", ⟨0x4a3a, .raw32⟩),
    ("VolLocPhsC", ⟨0x4a3c, .raw32⟩),
    ("AmpLocPhsA", ⟨0x4a44, .raw32⟩),
    ("AmpLocPhsB", ⟨0x4a46, .raw32⟩),
    ("AmpLocPhsC", ⟨0x4a48, .raw32⟩),
    ("WLocPhsA", ⟨0x4a4c, .raw32⟩),
    ("WLocPhsB", ⟨0x4a4e, .raw32⟩),
    ("WLocPhsC", ⟨0x4a50, .raw32⟩),
    ("AngLocPhsA", ⟨0x4a64, .raw32⟩),
    ("AngLocPhsB", ⟨0x4a66, .raw32⟩),
    ("AngLocPhsC", ⟨0x4a68, .raw32⟩),
    ("Freq", ⟨0x4a36, .raw32⟩),
    ("TotkWhImport", ⟨0x4a76, .raw32⟩),
    ("TotkWhExport", ⟨0x4a78, .raw32⟩)]

/-- Eastron SDM630 and compatible meters: binary32 numbers in input registers. -/
def sdm : Producer where
  kind := "SDMProducer"
  meterType := "SDM"
  function := 4
  probeLabel := "VolLocPhsA"
  registers := [
    ("VolLocPhsA", ⟨0x0000, .raw32⟩),
    ("VolLocPhsB", ⟨0x0002, .raw32⟩),
    ("VolLocPhsC", ⟨0x0004, .raw32⟩),
    ("AmpLocPhsA", ⟨0x0006, .raw32⟩),
    ("AmpLocPhsB", ⟨0x0008, .raw32⟩),
    ("AmpLocPhsC", ⟨0x000a, .raw32⟩),
    ("WLocPhsA", ⟨0x000c, .raw32⟩),
    ("WLocPhsB", ⟨0x000e, .raw32⟩),
    ("WLocPhsC", ⟨0x0010, .raw32⟩),
    ("AngLocPhsA", ⟨0x001e, .raw32⟩),
    ("AngLocPhsB", ⟨0x0020, .raw32⟩),
    ("AngLocPhsC", ⟨0x0022, .raw32⟩),
    ("Freq", ⟨0x0046, .raw32⟩),
    ("TotkWhImport", ⟨0x0048, .raw32⟩),
    ("TotkWhExport", ⟨0x004a, .raw32⟩)]

end MeterPolling.Producer
