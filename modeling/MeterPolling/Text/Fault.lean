/-!
Values without a text. Every value is written as text in messages and in files, but for two kinds: a
whole number that is too long, and a point in time whose offset from universal time is too large.
-/
namespace MeterPolling.Text

/-- The most digits of a decimal whole number, so that reading and writing it takes bounded work. -/
def maxDigits : Nat := 4300

/-- Why a value has no text. -/
inductive Fault where
  /-- A whole number of more than `maxDigits` digits. -/
  | digits
  /-- An offset of a day or more. -/
  | offset
deriving DecidableEq

def Fault.message : Fault → String
  | .digits =>
    s!"Exceeds the limit ({maxDigits} digits) for integer string conversion; "
      ++ "use sys.set_int_max_str_digits() to increase the limit"
  | .offset =>
    "offset must be a timedelta strictly between -timedelta(hours=24) and timedelta(hours=24)."

end MeterPolling.Text
