import MeterPolling.Toml.Lines
import MeterPolling.Toml.Value
/-!
Reading a document. Its lines name tables, or lists of tables, and assign values to names in the
table that was named last.
-/
namespace MeterPolling.Toml

/-- A document of which some lines were read. -/
structure Partial where
  root : Setting
  /-- The table that gets the next assignments. -/
  place : List Setting.Step
  /-- Names of tables that exist only because a longer name was given. -/
  implied : List String
  unfinished : Option Unfinished

namespace Partial

def empty : Partial := ⟨.table [], [], [], none⟩

/-! ## Names of tables -/

def isBareName (name : List Char) : Bool :=
  !name.isEmpty && name.all fun c => c.isAlphanum || c == '_' || c == '-'

/-- Reads the parts of a name in brackets, cut at its points. A part in quotes may hold points; it
is put together again from its pieces. -/
def readNames : Option (List Char) → List (List Char) → Except Fault (List (List Char))
  | none, [] => .ok []
  | some _, [] => .error .malformed
  | none, piece :: rest => do
    let name := Text.trimSpace piece
    match name with
    | c :: _ =>
      if c == '"' || c == '\'' then
        if name.length > 1 && name.getLast? == some c then
          return Text.inner 1 name :: (← readNames none rest)
        else readNames (some name) rest
      else if isBareName name then return name :: (← readNames none rest)
      else throw .malformed
    | [] => throw .malformed
  | some opened, piece :: rest => do
    let opened := opened ++ '.' :: piece
    let name := Text.trimSpace opened
    if name.length > 1 && name.getLast? == name.head? then
      return Text.inner 1 name :: (← readNames none rest)
    else readNames (some opened) rest

/-- The names in a line that begins with a bracket, and whether they name a list of tables. -/
def readHeader (line : List Char) : Except Fault (List (List Char) × Bool) := do
  let (isList, content) := match line with
    | '[' :: '[' :: rest => (true, rest)
    | _ => (false, line.drop 1)
  let closing := if isList then [']', ']'] else [']']
  if line.length == 1 then throw .malformed
  let n := 1 + closingInQuotes closing false (Text.quoteParts content)
  let pieces := Text.splitAtMost closing n content
  if pieces.length < n + 1 || !(Text.trimSpace (pieces.getLastD [])).isEmpty then throw .malformed
  let names ← readNames none (Text.split ['.'] (closing.intercalate pieces.dropLast))
  return (names, isList)
where
  /-- Closing brackets inside quotes before the first ones outside. -/
  closingInQuotes (closing : List Char) : Bool → List (List Char) → Nat
    | _, [] => 0
    | quoted, part :: rest =>
      let count := (Text.split closing part).length - 1
      if !quoted && count > 0 then 0 else count + closingInQuotes closing (!quoted) rest

/-- What a new name stands for. -/
def newTable (isLast isList : Bool) : Setting :=
  if isLast && isList then .list [.table []] else .table []

/-- The entry of this name is known. Only a table that was implied may be named again, and only a
list of tables may get one more. -/
def reopen (p : Partial) (name : String) (isLast isList : Bool) : Except Fault Partial :=
  if !isLast then .ok p
  else if p.implied.contains name then
    if isList then .error .malformed else .ok { p with implied := p.implied.erase name }
  else if !isList then .error .malformed
  else
    match p.root.at? (p.place ++ [.entry name]) with
    | some (.list _) =>
      .ok { p with root := p.root.modify (Setting.push (.table [])) (p.place ++ [.entry name]) }
    | _ => .error .noTable

/-- Finds or makes the entry of a name in the value at the present place. -/
def openName (p : Partial) (name : String) (isLast isList : Bool) : Except Fault Partial :=
  match p.root.at? p.place with
  | some (.table entries) =>
    if (entries.lookup name).isSome then p.reopen name isLast isList
    else
      .ok { p with
        root := p.root.modify (Setting.put name (newTable isLast isList)) p.place
        implied := if isLast then p.implied else p.implied ++ [name] }
  | some (.list []) => .error .pastList
  | some (.list _) =>
    let place := p.place ++ [.latest]
    match p.root.at? place with
    | some (.table entries) =>
      if (entries.lookup name).isSome then .ok { p with place := place }
      else
        .ok { p with
          root := p.root.modify (Setting.put name (newTable isLast isList)) place
          place := place }
    | _ => .error .noTable
  | some (.text "") => .error .pastText
  | _ => .error .noTable

/-- Goes into the entry of a name; on the way to a list of tables, into the last element of a
list. -/
def enter (p : Partial) (name : String) (isList : Bool) : Except Fault Partial :=
  let place := p.place ++ [.entry name]
  if !isList then .ok { p with place := place }
  else
    match p.root.at? place with
    | some (.list []) => .error .pastList
    | some (.list _) => .ok { p with place := place ++ [.latest] }
    | some (.text "") => .error .pastText
    | some (.text _) | some (.table _) => .ok { p with place := place }
    | _ => .error .noTable

def follow (p : Partial) (isList : Bool) : List (List Char) → Except Fault Partial
  | [] => .ok p
  | name :: rest => do
    if name.isEmpty then throw .malformed
    let key := String.ofList name
    let p ← p.openName key rest.isEmpty isList
    (← p.enter key isList).follow isList rest

/-! ## Lines -/

/-- Whether a line ends the unfinished text, to which it was added already. -/
def endsText (text line : List Char) : Except Fault Bool :=
  match text with
  | '[' :: _ =>
    match line.getLast? with
    | some c => .ok (c == ']')
    | none => .error .pastText
  | q :: _ => .ok (line.length > 2 && (line.reverse.take 3).all (· == q))
  | [] => .error .pastText

/-- Adds a line to the unfinished text. -/
def continueText (p : Partial) (u : Unfinished) (line : List Char) : Except Fault Partial := do
  let text := u.text ++ line
  if ← endsText text line then
    let (x, _) ← readValue (depthBound text) true text
    match p.root.at? p.place with
    | some (.table _) =>
      return { p with root := p.root.modify (Setting.put u.key x) p.place, unfinished := none }
    | _ => throw .noTable
  else return { p with unfinished := some (.ofLine u.key text) }

/-- Reads a line outside a text. -/
def readLine (p : Partial) (line : List Char) : Except Fault Partial := do
  match line.head? with
  | some '[' =>
    let (names, isList) ← readHeader line
    { p with place := [] }.follow isList names
  | some '{' =>
    if line.getLast? != some '}' then throw .malformed
    let root ← assignAll (depthBound line) (← bracedParts line) p.root p.place
    return { p with root := root }
  | _ =>
    if !line.contains '=' then return p
    let (root, unfinished) ← assign (depthBound line) line p.root p.place
    return { p with root := root, unfinished := unfinished }

/-- Reads a logical line. Blanks at the ends of a line count only inside a text, and empty lines
only there. -/
def step (p : Partial) (line : List Char) : Except Fault Partial :=
  match p.unfinished with
  | some u =>
    let line := if u.joined || !u.text.contains '\n' then Text.trimSpace line else line
    if line.isEmpty && u.joined then .ok p else p.continueText u line
  | none =>
    let line := Text.trimSpace line
    if line.isEmpty then .ok p else p.readLine line

end Partial

/-- The entries of a document, in the order of their first appearance. A text that does not end is
left out. -/
def read (document : String) : Except Fault (List (String × Setting)) := do
  let p ← (← lines document.toList).foldlM Partial.step .empty
  match p.root with
  | .table entries => return entries
  | _ => return []

end MeterPolling.Toml
