import MeterPolling.Decimal.Layout
import MeterPolling.Moment
import MeterPolling.Text.Quoted
import MeterPolling.Text.Numeral
/-!
The values of settings. A configuration file may give any setting any value, so settings stay
dynamic until they are validated. This module holds their texts, their equality and the whole
numbers in them.
-/
namespace MeterPolling

inductive Setting where
  | absent
  | flag (value : Bool)
  | number (value : Number)
  | text (value : String)
  | list (items : List Setting)
  | table (entries : List (String × Setting))
  | moment (value : Moment)

namespace Setting

instance : Inhabited Setting := ⟨.absent⟩

mutual

/-- The text of a value inside a list or a table, where texts are quoted. -/
def quoted : Setting → Except Text.Fault String
  | .absent => .ok "None"
  | .flag true => .ok "True"
  | .flag false => .ok "False"
  | .number n => n.text
  | .text s => .ok (Text.quoted s)
  | .list items => return "[" ++ (← quotedItems items) ++ "]"
  | .table entries => return "\x7b" ++ (← quotedEntries entries) ++ "\x7d"
  | .moment m => .ok m.quoted

def quotedItems : List Setting → Except Text.Fault String
  | [] => .ok ""
  | [x] => x.quoted
  | x :: rest => return (← x.quoted) ++ ", " ++ (← quotedItems rest)

def quotedEntries : List (String × Setting) → Except Text.Fault String
  | [] => .ok ""
  | [(k, x)] => return Text.quoted k ++ ": " ++ (← x.quoted)
  | (k, x) :: rest => return Text.quoted k ++ ": " ++ (← x.quoted) ++ ", " ++ (← quotedEntries rest)

end

/-- The text of a value by itself. -/
def shown : Setting → Except Text.Fault String
  | .text s => .ok s
  | .moment m => m.text
  | x => x.quoted

/-- The number in a value: a flag counts as zero or one. -/
def number? : Setting → Option Number
  | .flag b => some (.integer (if b then 1 else 0))
  | .number n => some n
  | _ => none

mutual

/-- Equality of values: numbers and flags by numeric value, tables without regard to order. -/
def same : Setting → Setting → Bool
  | .absent, .absent => true
  | .text a, .text b => a == b
  | .list a, .list b => sameItems a b
  | .table a, .table b => a.length == b.length && sameEntries a b
  | .moment a, .moment b => a == b
  | .flag a, y =>
    match y.number? with
    | some n => (Number.integer (if a then 1 else 0)).same n
    | none => false
  | .number m, y =>
    match y.number? with
    | some n => m.same n
    | none => false
  | _, _ => false

def sameItems : List Setting → List Setting → Bool
  | [], [] => true
  | x :: xs, y :: ys => x.same y && sameItems xs ys
  | _, _ => false

/-- Whether each entry has an equal one under its key in the other table. -/
def sameEntries : List (String × Setting) → List (String × Setting) → Bool
  | [], _ => true
  | (k, x) :: rest, other =>
    (match other.lookup k with
      | some y => x.same y
      | none => false) && sameEntries rest other

end

/-- Whether the value counts as given: not absent, zero, false or empty. -/
def isGiven : Setting → Bool
  | .absent => false
  | .flag b => b
  | .number n => !n.isZero
  | .text s => !s.isEmpty
  | .list items => !items.isEmpty
  | .table entries => !entries.isEmpty
  | .moment .. => true

/-- Why a value has no whole number. -/
inductive IntegerFault where
  | wrongType
  | notNumeric
  | tooLarge
deriving DecidableEq

/-- The whole number in a value: a number cut towards zero, or a text that is a decimal numeral. -/
def toInt : Setting → Except IntegerFault Int
  | .flag b => .ok (if b then 1 else 0)
  | .number (.integer n) => .ok n
  | .number (.real x) =>
    match x.truncate? with
    | some n => .ok n
    | none => .error (if x.isNaN then .notNumeric else .tooLarge)
  | .text s =>
    match Text.Numeral.readInt? s with
    | some n => .ok n
    | none => .error .notNumeric
  | _ => .error .wrongType

end Setting

end MeterPolling
