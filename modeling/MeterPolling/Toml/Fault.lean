import MeterPolling.Fault
/-!
Why a document could not be read.
-/
namespace MeterPolling.Toml

inductive Fault where
  /-- The text breaks a rule of the format. -/
  | malformed
  /-- The reader itself cannot go on. -/
  | broken (failure : Failure)
deriving DecidableEq

/-- Reading past the end of a text or of a list. -/
def Fault.pastText : Fault := .broken (.pastEnd false)
def Fault.pastList : Fault := .broken (.pastEnd true)

/-- A value is used as a table and is none. -/
def Fault.noTable : Fault := .broken .wrongType

end MeterPolling.Toml
