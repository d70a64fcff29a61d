import MeterPolling.Text.Fault
/-!
Points in time, as a configuration file may give them: a date, a time of day, or both, then with an
optional offset from universal time. Any offset can be read, but only one of less than a day has a
text.
-/
namespace MeterPolling

structure Date where
  year : Nat
  month : Nat
  day : Nat
deriving DecidableEq

structure TimeOfDay where
  hour : Nat
  minute : Nat
  second : Nat
  /-- Millionths of a second. -/
  micro : Nat
deriving DecidableEq

inductive Moment where
  | date (date : Date)
  | time (time : TimeOfDay)
  /-- The offset is in minutes. -/
  | both (date : Date) (time : TimeOfDay) (offset : Option Int)
deriving DecidableEq

namespace Moment

/-- A decimal number of at least `width` digits. -/
def padded (width n : Nat) : String :=
  let digits := Nat.toDigits 10 n
  String.ofList (List.replicate (width - digits.length) '0' ++ digits)

def dateText (d : Date) : String :=
  padded 4 d.year ++ "-" ++ padded 2 d.month ++ "-" ++ padded 2 d.day

/-- Hour, minute and second, and the fraction unless it is zero. -/
def timeText (t : TimeOfDay) : String :=
  padded 2 t.hour ++ ":" ++ padded 2 t.minute ++ ":" ++ padded 2 t.second
    ++ (if t.micro > 0 then "." ++ padded 6 t.micro else "")

/-- An offset in minutes, with its sign. -/
def offsetText (minutes : Int) : Except Text.Fault String :=
  let n := minutes.natAbs
  if n ≥ 24 * 60 then .error .offset
  else .ok ((if minutes < 0 then "-" else "+") ++ padded 2 (n / 60) ++ ":" ++ padded 2 (n % 60))

/-- The text of a moment by itself. -/
def text : Moment → Except Text.Fault String
  | .date d => .ok (dateText d)
  | .time t => .ok (timeText t)
  | .both d t none => .ok (dateText d ++ " " ++ timeText t)
  | .both d t (some offset) => return dateText d ++ " " ++ timeText t ++ (← offsetText offset)

/-- The text of a moment in a document, where a mark joins its parts and universal time has a name
of its own. -/
def documentText : Moment → Except Text.Fault String
  | .date d => .ok (dateText d)
  | .time t => .ok (timeText t)
  | .both d t offset => do
    let zone ← match offset with
      | none => pure ""
      | some 0 => pure "Z"
      | some n => offsetText n
    return dateText d ++ "T" ++ timeText t ++ zone

/-- Seconds and millionths, as far as the rest is not zero. -/
private def smallParts (t : TimeOfDay) : String :=
  if t.micro > 0 then s!", {t.second}, {t.micro}"
  else if t.second > 0 then s!", {t.second}" else ""

/-- The text of a moment inside a list or a table. -/
def quoted : Moment → String
  | .date d => s!"datetime.date({d.year}, {d.month}, {d.day})"
  | .time t => s!"datetime.time({t.hour}, {t.minute}" ++ smallParts t ++ ")"
  | .both d t _ =>
    s!"datetime.datetime({d.year}, {d.month}, {d.day}, {t.hour}, {t.minute}" ++ smallParts t ++ ")"

end Moment

end MeterPolling
