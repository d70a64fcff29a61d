import MeterPolling.Text.Character
import MeterPolling.Text.Pieces
import MeterPolling.Toml.Fault
/-!
The logical lines of a document. Comments become blanks, a list that goes over several lines becomes
one line, and the names at the beginnings of lines are checked on the way.
-/
namespace MeterPolling.Toml

/-- How far the name at the beginning of a line is read. -/
inductive Naming where
  | outside
  | inside
  /-- Only blanks, a point or the sign of equality may follow. -/
  | after
deriving DecidableEq

structure Scan where
  /-- What was read so far, the latest character first. Where quotes are counted, the end of the
  document counts as standing before its beginning. -/
  seen : List Char
  naming : Naming
  /-- Whether the name consists of several names with points between them. -/
  dotted : Bool
  /-- The kind of quote that is open. -/
  quote : Option Char
  /-- Whether a text that may go over several lines is open. -/
  multiline : Bool
  /-- How many brackets of lists are open. -/
  brackets : Int
  /-- Whether the name of a table is open, or that of a list of tables. -/
  header : Bool
  listHeader : Bool
  lineStart : Bool
  comment : Bool

namespace Scan

def start (document : List Char) : Scan where
  seen := document.reverse
  naming := .outside
  dotted := false
  quote := none
  multiline := false
  brackets := 0
  header := false
  listHeader := false
  lineStart := true
  comment := false

def push (s : Scan) (c : Char) : Scan := { s with seen := c :: s.seen }

/-- After a blank or a point of a dotted name: the next part of the name may begin with the next
character. -/
def resume (s : Scan) (next? : Option Char) : Except Fault Scan :=
  match next? with
  | none => .error .pastList
  | some next => .ok (if Text.isSpace next || next == '.' then s else { s with naming := .inside })

/-- Ends a name at the sign of equality; no other character is left to a name. -/
def endName (s : Scan) (c : Char) : Except Fault Scan :=
  if c == '=' then .ok { s with naming := .outside, dotted := false } else .error .malformed

/-- Whether the next character follows an odd number of backslashes. -/
def isEscaped (s : Scan) : Bool := (s.seen.takeWhile (· == '\\')).length % 2 == 1

/-- One character of a name, before it is pushed. In a name every kind of quote may be escaped. -/
def readName (s : Scan) (c : Char) (next? : Option Char) : Except Fault Scan :=
  if c == '\n' then .error .malformed
  else
    match s.quote, s.naming with
    | some q, _ =>
      .ok (if c == q && !s.isEscaped then { s with quote := none, naming := .after } else s)
    | none, .inside =>
      if Text.isSpace c then .ok { s with naming := .after }
      else if c == '.' then .ok { s with dotted := true }
      else if Text.isLetterOrNumber c || c == '_' || c == '-' then .ok s
      else if s.dotted && s.seen.head? == some '.' && (c == '"' || c == '\'') then
        .ok { s with quote := some c }
      else s.endName c
    | none, _ =>
      if Text.isSpace c then if s.dotted then s.resume next? else .ok s
      else if c == '.' then { s with dotted := true }.resume next?
      else s.endName c

/-- Opens or closes a quote; after two quotes of its kind it is one of a text over several lines. -/
def turnQuote (s : Scan) (c : Char) (repeated : Bool) : Scan :=
  if repeated then
    { s with multiline := !s.multiline, quote := if s.multiline then none else some c }
  else { s with quote := if s.quote.isSome then none else some c }

/-- What a character does to the open quote. A double quote may be escaped, a single one may not. -/
def readQuote (s : Scan) (c : Char) : Scan :=
  if c == '\'' && s.quote != some '"' then s.turnQuote c (['\'', '\''].isPrefixOf s.seen)
  else if c == '"' && s.quote != some '\'' then
    let before := min 2 (s.seen.takeWhile (· == '"')).length
    let slashes := ((s.seen.drop before).takeWhile (· == '\\')).length
    if before != 1 && slashes % 2 == 1 then s else s.turnQuote c (before == 2)
  else s

/-- What a character outside quotes does to the open brackets. -/
def readBracket (s : Scan) (c : Char) (next? : Option Char) : Scan :=
  if s.quote.isSome then s
  else if c == '[' && !s.header && !s.listHeader then
    if !s.lineStart then { s with brackets := s.brackets + 1 }
    else if next? == some '[' then { s with listHeader := true }
    else { s with header := true }
  else if c == ']' then
    if s.header then { s with header := false }
    else if s.listHeader then
      if s.seen.head? == some ']' then { s with listHeader := false } else s
    else { s with brackets := s.brackets - 1 }
  else s

/-- The end of a line. Right after the quotes that open a text over several lines it is left out. -/
def readLineEnd (s : Scan) : Except Fault Scan :=
  let s := { s with comment := false }
  if s.quote.isSome && !s.multiline then .error .malformed
  else if s.multiline then
    match s.seen with
    | a :: b :: rest =>
      if a == b && (a == '"' || a == '\'') then
        match rest with
        | d :: more => .ok { s with seen := a :: a :: b :: (if d == a then ' ' else d) :: more }
        | [] => .ok (s.push a)
      else .ok (s.push '\n')
    | _ => .ok (s.push '\n')
  else if s.brackets != 0 then .ok (s.push ' ')
  else .ok { s.push '\n' with lineStart := true }

/-- A character that begins a line, unless it is a blank. -/
def readLineStart (s : Scan) (c : Char) : Except Fault Scan :=
  if !s.lineStart || c == ' ' || c == '\t' then .ok (s.push c)
  else if s.header || s.listHeader then .ok { s.push c with lineStart := false }
  else if c == '=' then .error .malformed
  else .ok { s.push c with lineStart := false, naming := .inside }

/-- One character of a document; the character after it is known. -/
def step (s : Scan) (c : Char) (next? : Option Char) : Except Fault Scan :=
  if s.comment && c != '\n' then .ok (s.push ' ')
  else if s.naming != .outside then do return (← s.readName c next?).push c
  else
    let s := s.readQuote c
    if c == '#' && s.quote.isNone && !s.header && !s.listHeader then
      .ok { s.push ' ' with comment := true }
    else
      let s := s.readBracket c next?
      if c == '\n' then s.readLineEnd else s.readLineStart c

def run (s : Scan) : List Char → Except Fault Scan
  | [] => .ok s
  | c :: rest => do (← s.step c rest.head?).run rest

end Scan

/-- The logical lines of a document. A name must be followed by a value, and a quote must end. -/
def lines (document : List Char) : Except Fault (List (List Char)) := do
  let s ← (Scan.start document).run document
  if s.naming != .outside || s.quote.isSome then throw .malformed
  return Text.split ['\n'] (s.seen.take document.length).reverse

end MeterPolling.Toml
