import MeterPolling.Toml.Place
import MeterPolling.Text.Pieces
import MeterPolling.Fault
/-!
Writing a document. The entries that are no tables come first, one to a line; tables follow under
their names, an outer one before those inside it.
-/
namespace MeterPolling.Toml

/-! ## Texts -/

/-- Puts a text and the code after it together. The backslashes at the end of the text decide how
the code is written. -/
def joinCode (text code : List Char) : List Char :=
  let text := ['\\'].intercalate (Text.split ['\\', '\\'] text)
  let slashes := (text.reverse.takeWhile (· == '\\')).length
  let slashes := min slashes (text.length - 1)
  let joiner :=
    if text.getLast? != some '\\' || slashes % 2 == 1 then ['x'] else ['u', '0', '0']
  text ++ joiner ++ code

/-- Puts a text and the pieces after it together, between which character codes begin. At the very
beginning of a text no code can be written. -/
def joinCodes (text : List Char) : List (List Char) → Except Failure (List Char)
  | [] => .ok text
  | [piece] =>
    if !text.isEmpty then .ok (joinCode text piece) else .error (.pastEnd !piece.isEmpty)
  | piece :: next :: rest =>
    if !text.isEmpty then joinCodes (joinCode text piece) (next :: rest)
    else if piece.isEmpty then .error (.pastEnd false)
    else joinCodes (joinCode piece next) rest

def writeText (s : String) : Except Failure String := do
  let cs := (Text.quoted s).toList
  let content := Text.inner 1 cs
  let content :=
    if cs.head? == some '\'' then
      let content := ['\''].intercalate (Text.split ['\\', '\''] content)
      ['\\', '"'].intercalate (Text.split ['"'] content)
    else content
  let joined ←
    match Text.split ['\\', 'x'] content with
    | first :: rest => joinCodes first rest
    | [] => pure []
  return "\"" ++ String.ofList joined ++ "\""

/-- A number. The exponent of a real one is written without its leading zero. -/
def writeNumber (n : Number) : Except Failure String := do
  let text ← n.text.mapError .textless
  match n with
  | .integer _ => return text
  | .real _ =>
    let cs := ['e', '+'].intercalate (Text.split ['e', '+', '0'] text.toList)
    return String.ofList (['e', '-'].intercalate (Text.split ['e', '-', '0'] cs))

mutual

/-- A value on one line. Of a table inside a list only the keys are written. -/
def writeValue : Setting → Except Failure String
  | .absent => writeText "None"
  | .flag b => .ok (if b then "true" else "false")
  | .number n => writeNumber n
  | .text s => writeText s
  | .list items => return "[" ++ (← writeItems items) ++ "]"
  | .table entries => return "[" ++ (← writeKeys (entries.map (·.1))) ++ "]"
  | .moment m => m.documentText.mapError .textless

def writeItems : List Setting → Except Failure String
  | [] => .ok ""
  | x :: rest => return " " ++ (← writeValue x) ++ "," ++ (← writeItems rest)

def writeKeys : List String → Except Failure String
  | [] => .ok ""
  | k :: rest => return " " ++ (← writeText k) ++ "," ++ (← writeKeys rest)

end

/-- A key, in quotes where it has other characters than a bare one may have. -/
def writeKey (key : String) : Except Failure String :=
  let cs := key.toList
  let cs := if cs.getLast? == some '\n' then cs.dropLast else cs
  if !cs.isEmpty && cs.all fun c => c.isAlphanum || c == '_' || c == '-' then .ok key
  else writeText key

/-! ## Tables -/

/-- Whether a value is a list that holds a table. -/
def holdsTable : Setting → Bool
  | .list items => items.any fun x => (x matches .table _)
  | _ => false

/-- Tables by their names as they are written. -/
abbrev NamedTables := List (String × List (String × Setting))

/-- The tables by name. Different keys may be written alike; of tables of one name the last one is
left, in the place of the first. -/
def NamedTables.merged (tables : NamedTables) : NamedTables :=
  tables.foldl (fun done t => Setting.putEntry t.1 t.2 done) []

def innerTables (entries : List (String × Setting)) : Except Failure NamedTables := do
  let tables ← entries.filterMapM fun e =>
    match e.2 with
    | .table inner => do return some (← writeKey e.1, inner)
    | _ => return none
  return NamedTables.merged tables

mutual

/-- How many tables and values are in a value; it bounds the depth of tables. -/
def weight : Setting → Nat
  | .list items => weightItems items + 1
  | .table entries => weightEntries entries + 1
  | _ => 1

def weightItems : List Setting → Nat
  | [] => 0
  | x :: rest => weight x + weightItems rest

def weightEntries : List (String × Setting) → Nat
  | [] => 0
  | (_, x) :: rest => weight x + weightEntries rest

end

/-- The entries of an element in a list of tables. An empty text or list counts as an empty table;
nothing else but a table has entries. -/
def elementEntries : Setting → Except Failure (List (String × Setting))
  | .table entries => .ok entries
  | .text s =>
    match s.toList with
    | [] => .ok []
    | c :: _ => do
      let _ ← writeKey (String.singleton c)
      throw .wrongType
  | .list [] => .ok []
  | .list (x :: _) => do
    let _ ← writeKey (← x.shown.mapError .textless)
    throw .wrongType
  | _ => .error .wrongType

mutual

/-- The entries of a table of this name: those on one line each, then the lists of tables. -/
def writeTable : Nat → String → List (String × Setting) → Except Failure String
  | 0, _, _ => .ok ""
  | fuel + 1, name, entries => do
    let (lines, lists) ← writeEntries fuel name entries
    return lines ++ lists

/-- Entries one by one: the lines of the simple ones, and the lists of tables. Tables stand
elsewhere, and an absent value is left out. -/
def writeEntries : Nat → String → List (String × Setting) → Except Failure (String × String)
  | 0, _, _ => .ok ("", "")
  | _, _, [] => .ok ("", "")
  | fuel + 1, name, (key, x) :: rest => do
    let written ← writeKey key
    let (line, list) ←
      match x with
      | .table _ | .absent => pure ("", "")
      | .list items =>
        if holdsTable x then do
          let full := if name == "" then written else name ++ "." ++ written
          pure ("", ← writeElements fuel full items)
        else do pure (written ++ " = " ++ (← writeValue x) ++ "\n", "")
      | _ => do pure (written ++ " = " ++ (← writeValue x) ++ "\n", "")
    let (lines, lists) ← writeEntries fuel name rest
    return (line ++ lines, list ++ lists)

/-- The elements of a list of tables. -/
def writeElements : Nat → String → List Setting → Except Failure String
  | 0, _, _ => .ok ""
  | _, _, [] => .ok ""
  | fuel + 1, name, x :: rest => do
    let entries ← elementEntries x
    let text ← writeTable fuel name entries
    let body := if text.startsWith "[" then "\n" ++ text else text ++ "\n"
    let inside ← writeInside fuel name (← innerTables entries)
    return "[[" ++ name ++ "]]\n" ++ body ++ inside ++ (← writeElements fuel name rest)

/-- The tables inside an element of a list of tables, level by level. -/
def writeInside : Nat → String → NamedTables → Except Failure String
  | 0, _, _ => .ok ""
  | _, _, [] => .ok ""
  | fuel + 1, name, tables => do
    let texts ← tables.mapM fun t => do
      let text ← writeTable fuel (name ++ "." ++ t.1) t.2
      return if text.isEmpty then "" else "[" ++ name ++ "." ++ t.1 ++ "]\n" ++ text
    let deeper ← tables.mapM fun t => do
      return (← innerTables t.2).map fun d => (t.1 ++ "." ++ d.1, d.2)
    return String.join texts ++ (← writeInside fuel name (NamedTables.merged deeper.flatten))

end

/-- The tables of a document, level by level, each under its full name after an empty line. A table
that holds only tables has no line of its own. -/
def writeTables : Nat → String → NamedTables → Except Failure String
  | 0, done, _ => .ok done
  | _, done, [] => .ok done
  | fuel + 1, done, tables => do
    let written ← tables.mapM fun t => do
      return (t.1, ← writeTable fuel t.1 t.2, ← innerTables t.2)
    let done := written.foldl (fun done (name, text, inside) =>
      if text.isEmpty && !inside.isEmpty then done
      else
        let gap := if done.isEmpty || done.endsWith "\n\n" then "" else "\n"
        done ++ gap ++ "[" ++ name ++ "]\n" ++ text) done
    let deeper := written.flatMap fun (name, _, inside) =>
      inside.map fun d => (name ++ "." ++ d.1, d.2)
    writeTables fuel done (NamedTables.merged deeper)

/-- A document with these entries. -/
def write (entries : List (String × Setting)) : Except Failure String := do
  let fuel := 2 * weightEntries entries + 2
  writeTables fuel (← writeTable fuel "" entries) (← innerTables entries)

end MeterPolling.Toml
