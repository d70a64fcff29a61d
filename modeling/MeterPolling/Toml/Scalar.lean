import MeterPolling.Setting
import MeterPolling.Text.Pieces
import MeterPolling.Toml.Fault
/-!
The simple values of a document: numbers, dates and times, and texts.
-/
namespace MeterPolling.Toml

/-- The kinds of values. A list holds values of one kind. -/
inductive Kind where
  | flag
  | text
  | integer
  | real
  | date
  | time
  | list
  | table
deriving DecidableEq

/-! ## Numbers -/

/-- Whether the leading zeros and underscores of a number are where they may be. -/
def isWellFormed (cs : List Char) : Bool :=
  match Text.trimSpace cs with
  | [] => false
  | ['_'] => false
  | [_] => true
  | cs@(first :: second :: rest) =>
    let unsigned := if first == '+' || first == '-' then second :: rest else cs
    first != '_' && cs.getLast? != some '_'
      && (Text.split ['_', '.'] cs).length == 1 && (Text.split ['.', '_'] cs).length == 1
      && (first != '0' || ['.', 'o', 'b', 'x'].contains second)
      && (match first, unsigned with
        | '+', '0' :: c :: _ | '-', '0' :: c :: _ => c == '.'
        | _, _ => true)
      && (Text.split ['_', '_'] unsigned).length == 1

/-- The number without its sign: one with a point or an exponent is real, any other one whole. -/
def readUnsigned (cs : List Char) : Except Fault Number := do
  let cs := cs.filter (· != '_')
  let text := String.ofList cs
  let hasPoint := cs.contains '.'
  let hasExponent := !cs.contains 'x' && (cs.contains 'e' || cs.contains 'E')
  let lower := cs.map Char.toLower
  let number? : Option Number :=
    if hasPoint || hasExponent then
      if hasPoint && (Text.cutAt '.' cs).2.isEmpty then none
      else if cs.head?.all fun c => !c.isDigit then none
      else (Text.Numeral.readBinary64? text).map .real
    else if lower == ['i', 'n', 'f'] || lower == ['n', 'a', 'n'] then
      (Text.Numeral.readBinary64? text).map .real
    else (Text.Numeral.readMarked? text).map .integer
  match number? with
  | some n => return n
  | none => throw .malformed

/-- The negative of a number; that of zero is zero without a sign. -/
def negated : Number → Number
  | .integer n => .integer (-n)
  | .real x => .real (.sub .zero x)

def readNumber (cs : List Char) : Except Fault Number :=
  match cs with
  | '-' :: rest => return negated (← readUnsigned rest)
  | '+' :: rest => readUnsigned rest
  | _ => readUnsigned cs

/-! ## Dates and times -/

def daysInMonth (year month : Nat) : Nat :=
  match month with
  | 2 => if year % 4 == 0 && (year % 100 != 0 || year % 400 == 0) then 29 else 28
  | 4 | 6 | 9 | 11 => 30
  | _ => 31

/-- The whole number between two positions of a text. -/
def numberAt? (cs : List Char) (first last : Nat) : Option Int :=
  Text.Numeral.readInt? (String.ofList ((cs.drop first).take (last - first)))

/-- A whole number between two positions that is in a range. -/
def partAt? (cs : List Char) (first last low high : Nat) : Option Nat :=
  (numberAt? cs first last).bind fun n =>
    if (low : Int) ≤ n && n ≤ high then some n.toNat else none

def calendarDay? (cs : List Char) : Option Date := do
  let year ← partAt? cs 0 4 1 9999
  let month ← partAt? cs 5 7 1 12
  let day ← partAt? cs 8 10 1 (daysInMonth year month)
  return ⟨year, month, day⟩

/-- An offset from universal time, in minutes. -/
def offset? (cs : List Char) : Option Int := do
  let cs := if cs == ['Z'] then "+00:00".toList else cs
  let hours ← numberAt? cs 1 3
  let minutes ← numberAt? cs 4 6
  let total := hours * 60 + minutes
  return if cs.head? == some '-' then -total else total

/-- The digits after a point of a second, and what is written of the offset. -/
def splitFraction (cs : List Char) : List Char × Option (List Char) :=
  if cs.getLast? == some 'Z' || cs.getLast? == some 'z' then (cs.dropLast, some ['Z'])
  else if cs.contains '+' then (cs.takeWhile (· != '+'), some (cs.dropWhile (· != '+')))
  else if cs.contains '-' then (cs.takeWhile (· != '-'), some (cs.dropWhile (· != '-')))
  else (cs, none)

/-- A fraction of a second of `count` digits, in whole millionths. More than six digits go through
binary64 numbers, which are not large enough for all of them. -/
def millionths (n : Int) (count : Nat) : Except Fault Int :=
  if count ≤ 6 then .ok (n * Nat.pow 10 (6 - count))
  else
    match Binary64.ofInt? n with
    | none => .error (.broken .tooLarge)
    | some x => .ok ((x * .ofQuotient false 1 (Nat.pow 10 (count - 6))).truncate?.getD 0)

/-- The fraction of a second, in millionths, and the offset, both optional. Where either is not well
formed, neither counts. -/
def secondPart (cs : List Char) : Except Fault (Int × Option Int) :=
  match cs with
  | '.' :: rest =>
    let (digits, zone?) := splitFraction rest
    match zone?.map offset?, Text.Numeral.readInt? (String.ofList digits) with
    | some none, _ => .ok (0, none)
    | _, none => .ok (0, none)
    | zone, some n => return (← millionths n digits.length, zone.bind id)
  | _ => .ok (0, offset? cs)

/-- A date, or a date with a time after it. -/
def readDate? (cs : List Char) : Except Fault (Option Moment) := do
  let (micro, offset) ← if cs.length > 19 then secondPart (cs.drop 19) else pure (0, none)
  return if (cs.drop 1).contains '-' then moment? micro offset else none
where
  moment? (micro : Int) (offset : Option Int) : Option Moment := do
    let date ← calendarDay? cs
    if cs.length == 10 then return .date date
    let hour ← partAt? cs 11 13 0 23
    let minute ← partAt? cs 14 16 0 59
    let second ← partAt? cs 17 19 0 59
    if micro < 0 || micro > 999999 then none
    return .both date ⟨hour, minute, second, micro.toNat⟩ offset

/-- The digits that begin a time of day: two each for hour, minute and second, and a fraction. -/
def timeDigits? (cs : List Char) : Option TimeOfDay := do
  let two (a b : Char) : Option Nat :=
    if a.isDigit && b.isDigit then some ((a.toNat - 48) * 10 + (b.toNat - 48)) else none
  match cs with
  | a :: b :: ':' :: c :: d :: ':' :: e :: f :: rest =>
    let hour ← two a b
    let minute ← two c d
    let second ← two e f
    let fraction := match rest with
      | '.' :: more => (more.takeWhile Char.isDigit).take 6
      | _ => []
    let digits := fraction.map fun d => d.toNat - 48
    let micro := if fraction.length < 3 then 0 else Text.Numeral.value 10 digits
    return ⟨hour, minute, second, micro⟩
  | _ => none

/-- A time of day whose parts are in their ranges. -/
def timeOfDay (t : TimeOfDay) : Except Fault Moment :=
  if t.hour > 23 || t.minute > 59 || t.second > 59 then .error .malformed else .ok (.time t)

/-! ## Texts -/

/-- What may follow a backslash, with the character that both stand for. -/
def escapes : List (Char × Char) := [
  ('0', '\x00'), ('b', '\x08'), ('f', '\x0c'), ('n', '\n'), ('r', '\r'), ('t', '\t'), ('"', '"')]

/-- Whether nothing follows the end of a text, given the pieces between its quotes. In a text with
three quotes at each end, single ones do not end it. -/
def endsOnce (triple : Bool) : Bool → Nat → List (List Char) → Bool
  | _, _, [] => true
  | closed, quotes, piece :: rest =>
    if piece.isEmpty then
      if triple then endsOnce triple closed (quotes + 1) rest else endsOnce triple true quotes rest
    else if Text.endsEscaping piece then endsOnce triple closed quotes rest
    else if closed then false
    else if !triple || quotes > 1 then endsOnce triple true quotes rest
    else endsOnce triple false 0 rest

/-- Whether each backslash is followed by what may follow one. The pieces after backslashes are
given. -/
def escapesKnown : Bool → List (List Char) → Bool
  | _, [] => true
  | escaped, [] :: rest => escapesKnown (!escaped) rest
  | escaped, (c :: _) :: rest =>
    (escaped || c == 'u' || c == 'U' || (escapes.lookup c).isSome) && escapesKnown false rest

def isHexDigit (c : Char) : Bool := c.isDigit || ('a' ≤ c && c ≤ 'f')

/-- The character of a code written in hexadecimal digits. -/
def codePoint (digits : List Char) : Except Fault Char :=
  if !digits.all isHexDigit then .error .malformed
  else
    match digits with
    | [] => .error .pastText
    | ['d'] => .error .pastText
    | 'd' :: second :: _ =>
      if '0' ≤ second && second ≤ '7' then number digits else .error .malformed
    | _ => number digits
where
  number (digits : List Char) : Except Fault Char :=
    let n := Text.Numeral.value 16 (digits.map fun c => (Text.Numeral.digitValue? c).getD 0)
    if n ≥ 0x80000000 then .error (.broken .tooLarge)
    else if n > 0x10ffff then .error .malformed
    else .ok (Char.ofNat n)

/-- Replaces the codes of characters: the pieces of a text after its first mark, put to what stands
before it. A mark whose backslash is escaped is left alone. -/
def replaceCodes (mark : List Char) (width : Nat) : Bool → List Char → List (List Char) →
    Except Fault (List Char)
  | _, done, [] => .ok done
  | true, done, piece :: rest =>
    replaceCodes mark width (Text.endsEscaping piece) (done ++ mark ++ piece) rest
  | false, done, piece :: rest => do
    let c ← codePoint ((piece.take width).map Char.toLower)
    replaceCodes mark width false (done ++ c :: piece.drop width) rest

def replaceMarked (mark : List Char) (width : Nat) (cs : List Char) : Except Fault (List Char) :=
  match Text.split mark cs with
  | before :: first :: rest =>
    replaceCodes mark width (Text.endsEscaping before) before (first :: rest)
  | _ => .ok cs

def unescape : List Char → Except Fault (List Char)
  | '\\' :: c :: rest =>
    match escapes.lookup c with
    | some x => return x :: (← unescape rest)
    | none =>
      if c == '\\' then return '\\' :: (← unescape rest)
      else if c == 'u' || c == 'U' then return '\\' :: c :: (← unescape rest)
      else .error .malformed
  | c :: rest => return c :: (← unescape rest)
  | [] => .ok []

/-- The text between quotes of one kind, one or three at each end. -/
def readText (quote : Char) (cs : List Char) : Except Fault String := do
  let pieces := Text.split [quote] (cs.drop 1)
  let (triple, pieces) := match pieces with
    | [] :: [] :: rest => (true, rest)
    | _ => (false, pieces)
  if !endsOnce triple false 0 pieces then throw .malformed
  let cs ← if quote == '"' then do
      if !escapesKnown false ((Text.split ['\\'] cs).drop 1) then throw .malformed
      let cs ← replaceMarked ['\\', 'u'] 4 cs
      let cs ← replaceMarked ['\\', 'U'] 8 cs
      unescape cs
    else pure cs
  let bare := match cs with
    | [_, q] => if q == quote then Text.inner 2 cs else cs
    | _ :: q :: r :: _ => if q == quote && q == r then Text.inner 2 cs else cs
    | _ => cs
  return String.ofList (Text.inner 1 bare)

end MeterPolling.Toml
