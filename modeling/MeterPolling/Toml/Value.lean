import MeterPolling.Toml.Place
import MeterPolling.Toml.Scalar
/-!
The values of a document and their assignment to names. A list holds values of one kind; a table in
braces is a sequence of assignments of its own. Values nest, and each one inside another is shorter
than it, so the length of a text bounds the depth of reading it.
-/
namespace MeterPolling.Toml

/-- A text over several lines, of which the first ones were read. -/
structure Unfinished where
  key : String
  text : List Char
  /-- Whether the next line goes on without a line end. -/
  joined : Bool

/-! ## Lists -/

/-- Whether a list begins with a text in quotes. -/
def holdsTexts (list : List Char) : Bool :=
  match Text.trimSpace (Text.inner 1 list) with
  | c :: _ => c == '"' || c == '\''
  | [] => false

/-- Whether the piece ends with the quote that it begins with. -/
def isBounded (cs : List Char) : Bool :=
  match cs with
  | [] => true
  | [_] => true
  | first :: rest => rest.getLast? == some first && !Text.endsEscaping rest.dropLast

/-- Whether a piece of a list, cut at a comma, is only the beginning of a text. -/
def isCutText (cs : List Char) : Bool :=
  !isBounded cs ||
    match cs with
    | a :: b :: c :: _ =>
      a == b && b == c && cs.reverse[1]? != some a && cs.reverse[2]? != some a
    | _ => false

/-- Joins the pieces of texts that were cut at commas inside them. The last piece is left as it
is. -/
def joinTexts : Nat → List (List Char) → Except Fault (List (List Char))
  | 0, pieces => .ok pieces
  | _, [] => .ok []
  | _, [piece] => .ok [piece]
  | fuel + 1, piece :: next :: rest =>
    if isCutText (Text.trimSpace piece) then
      match rest with
      | [] =>
        let joined := piece ++ ',' :: next
        if isCutText (Text.trimSpace joined) then .error .pastList else .ok [joined]
      | _ => joinTexts fuel ((piece ++ ',' :: next) :: rest)
    else return piece :: (← joinTexts fuel (next :: rest))

/-- Cuts a text at the commas that are in no inner brackets. -/
def splitNested (cs : List Char) : List (List Char) := go 0 [] cs
where
  go : Int → List Char → List Char → List (List Char)
    | _, piece, [] => [piece.reverse]
    | depth, piece, c :: rest =>
      if c == ',' && depth == 0 then piece.reverse :: go depth [] rest
      else
        go (if c == '[' then depth + 1 else if c == ']' then depth - 1 else depth) (c :: piece) rest

/-- The tables in braces that a list consists of; what stands between them is left out, and so is
the character right after each. -/
def splitTables (cs : List Char) : List (List Char) := go false 0 [] cs
where
  go : Bool → Nat → List Char → List Char → List (List Char)
    | _, _, _, [] => []
    | inText, 1, piece, '}' :: c :: rest =>
      if inText then go inText 1 ('}' :: piece) (c :: rest)
      else ('}' :: piece).reverse :: go inText 0 [] rest
    | inText, depth, piece, c :: rest =>
      let inText :=
        if depth > 0 && (c == '"' || c == '\'') then
          if inText && Text.endsEscaping piece.reverse then inText else !inText
        else inText
      if inText then go inText depth (c :: piece) rest
      else if c == '{' then go inText (depth + 1) (c :: piece) rest
      else if depth == 0 then go inText 0 [] rest
      else if c == '}' && depth == 1 then [(c :: piece).reverse]
      else if c == '}' then go inText (depth - 1) (c :: piece) rest
      else go inText depth (c :: piece) rest

/-- The elements of a list, as texts. -/
def splitList (list : List Char) : Except Fault (List (List Char)) :=
  let content := Text.inner 1 list
  let beforeBracket := content.takeWhile (· != '[')
  if content.contains '[' && (Text.trimSpace beforeBracket).isEmpty then .ok (splitNested content)
  else if (Text.trimSpace content).head? == some '{' then .ok (splitTables content)
  else
    let pieces := Text.split [','] content
    if holdsTexts list then joinTexts (content.length + 1) pieces else .ok pieces

/-! ## Assignments -/

/-- The text before and after the sign of equality of this number, counted from one. -/
def cutAtEquality (line : List Char) (n : Nat) : List Char × List Char :=
  let pieces := Text.splitAtMost ['='] n line
  (['='].intercalate pieces.dropLast, pieces.getLastD [])

/-- Signs of equality inside quotes before the first one outside. -/
def quotedEqualities : Bool → List (List Char) → Nat
  | _, [] => 0
  | quoted, part :: rest =>
    if !quoted && part.contains '=' then 0 else part.count '=' + quotedEqualities (!quoted) rest

/-- Whether a value may begin right here, without a blank before it. -/
def startsValue (value : List Char) : Except Fault Bool :=
  match value with
  | [] => .ok true
  | c :: _ =>
    if [' ', '\t', '\'', '"', '[', '{'].contains c
      || ["true", "false"].contains (String.ofList (Text.trimSpace value))
      || (Text.Numeral.readBinary64? (String.ofList value)).isSome then .ok true
    else return (← readDate? value).isSome || (timeDigits? value).isSome

/-- Finds the sign of equality after which a value begins: name, value, and whether each candidate
for a number was well formed. -/
def findValue (line : List Char) : Nat → Nat → List Char × List Char → Bool →
    Except Fault (List Char × List Char × Bool)
  | 0, _, (name, value), wellFormed => .ok (name, value, wellFormed)
  | fuel + 1, n, (name, value), wellFormed => do
    if ← startsValue value then return (name, value, wellFormed)
    let next := cutAtEquality line (n + 1)
    if next.2 == value then throw .malformed
    findValue line fuel (n + 1) next (wellFormed && isWellFormed next.2)

/-- The name and the value of an assignment. Underscores in a number right after the sign of
equality are left out. -/
def splitAssignment (line : List Char) : Except Fault (List Char × List Char × Bool) := do
  let n := 1 + quotedEqualities false (Text.quoteParts line)
  let (name, value) := cutAtEquality line n
  let plain := if value.head?.any Char.isDigit then value.filter (· != '_') else value
  let (name, value, wellFormed) ←
    findValue line (line.length + 1) n (name, plain) (isWellFormed value)
  return (Text.trimSpace name, Text.trimSpace value, wellFormed)

/-- The names of which a dotted name consists. -/
def dottedNames (name : List Char) : List (List Char) :=
  let parts := Text.quoteParts name
  if parts.length == 1 then Text.split ['.'] name
  else go false parts
where
  go : Bool → List (List Char) → List (List Char)
    | _, [] => []
    | true, part :: rest => part :: go false rest
    | false, part :: rest => (Text.split ['.'] part).map Text.trimSpace ++ go true rest

/-- Goes down into the tables of a dotted name, which are made where they do not exist. -/
def descend (root : Setting) (place : List Setting.Step) : List (List Char) →
    Except Fault (Setting × List Setting.Step)
  | [] => .ok (root, place)
  | [] :: rest => descend root place rest
  | name :: rest =>
    let key := String.ofList name
    match root.at? place with
    | some (.table entries) =>
      let root :=
        if (entries.lookup key).isSome then root
        else root.modify (Setting.put key (.table [])) place
      descend root (place ++ [.entry key]) rest
    | _ => .error .noTable

/-- The key of an assignment and the place of the table that gets it. Escaped characters are
replaced in a name in quotes, also in single ones, but not in a dotted name. -/
def findKey (root : Setting) (place : List Setting.Step) (name : List Char) :
    Except Fault (Setting × List Setting.Step × String) :=
  if name.contains '.' then
    let names := ((dottedNames name).reverse.dropWhile List.isEmpty).reverse
    match names.getLast? with
    | none => .error .pastList
    | some last => do
      let (root, place) ← descend root place names.dropLast
      return (root, place, String.ofList (Text.trimSpace last))
  else
    match name with
    | [] => .error .pastText
    | c :: _ =>
      if name.getLast? == some c && (c == '"' || c == '\'') then
        return (root, place, String.ofList (← unescape (Text.inner 1 name)))
      else .ok (root, place, String.ofList name)

/-- The last text of a list whose end is not on the line, given the pieces in reverse. -/
def lastText : List (List Char) → Except Fault (List Char)
  | [] => .ok []
  | [piece] => .ok piece
  | piece :: before :: rest =>
    match piece with
    | [] => .error .pastText
    | c :: _ =>
      if c == '"' || c == '\'' then .ok piece else lastText ((before ++ ',' :: piece) :: rest)
termination_by pieces => pieces.length

/-- Whether a value is a text, or ends with one, that goes on in the next line. -/
def isUnfinished (value : List Char) : Except Fault Bool := do
  if value.length < 3 then return false
  let text ←
    if value.head? == some '[' && value.getLast? != some ']' && holdsTexts value then
      lastText (Text.split [','] (Text.trimSpace (value.drop 1))).reverse
    else pure value
  match text with
  | [] => throw .pastText
  | a :: rest =>
    if a != '"' && a != '\'' then return false
    match rest with
    | b :: c :: more =>
      let ends := more.length > 2 && (more.reverse.take 3).all (· == a)
      return a == b && a == c && !ends
    | [b] => if b == a then throw .pastText else return false
    | [] => throw .pastText

/-- The text of an unfinished value up to the end of its line. A backslash at the end joins it to
the next line. -/
def Unfinished.ofLine (key : String) (text : List Char) : Unfinished :=
  if Text.endsEscaping text then ⟨key, text.dropLast, true⟩ else ⟨key, text ++ ['\n'], false⟩

/-! ## Tables in braces -/

/-- Whether the part of a table in braces is complete: its value ends where the part ends. -/
def isCompletePart (part : List Char) : Except Fault Bool := do
  if !part.contains '=' then throw .malformed
  let value := Text.trimSpace (Text.cutAt '=' part).2
  match value with
  | [] => throw .pastText
  | c :: _ =>
    let last := value.getLast?
    return (last == some c && (c == '"' || c == '\'')) || c == '-' || c.isDigit
      || ["true", "false"].contains (String.ofList value)
      || (c == '[' && last == some ']') || (c == '{' && last == some '}')

/-- The assignments in braces. What a comma inside a value has cut is joined again. -/
def splitBraces : List (List Char) → Except Fault (List (List Char))
  | [] => .ok []
  | part :: rest => do
    if ← isCompletePart part then return part :: (← splitBraces rest)
    match rest with
    | [] => throw .malformed
    | next :: more => splitBraces ((part ++ ',' :: next) :: more)
termination_by parts => parts.length

/-- The assignments of a table in braces. -/
def bracedParts (line : List Char) : Except Fault (List (List Char)) :=
  match Text.split [','] (Text.inner 1 line) with
  | [part] => if (Text.trimSpace part).isEmpty then .ok [] else splitBraces [part]
  | parts => splitBraces parts

/-! ## Values -/

mutual

/-- Reads a value. A number that stands alone must also be well formed. -/
def readValue : Nat → Bool → List Char → Except Fault (Setting × Kind)
  | 0, _, _ => .error .malformed
  | fuel + 1, wellFormed, value =>
    match value with
    | [] => .error .malformed
    | c :: _ =>
      let lower := String.ofList (value.map Char.toLower)
      if lower == "true" || lower == "false" then
        if String.ofList value == lower then .ok (.flag (lower == "true"), .flag)
        else .error .malformed
      else if c == '"' || c == '\'' then return (.text (← readText c value), .text)
      else if c == '[' then do
        let items ← readItems fuel (← splitList (Text.trimSpace value)) none
        return (.list items, .list)
      else if c == '{' then return (← assignAll fuel (← bracedParts value) (.table []) [], .table)
      else
        match timeDigits? value with
        | some time => return (.moment (← timeOfDay time), .time)
        | none => do
          match ← readDate? value with
          | some date => return (.moment date, .date)
          | none =>
            if !wellFormed then throw .malformed
            let n ← readNumber value
            return (.number n, match n with
              | .integer _ => .integer
              | .real _ => .real)

/-- Reads the elements of a list, all of one kind. Empty places are left out. -/
def readItems : Nat → List (List Char) → Option Kind → Except Fault (List Setting)
  | 0, _, _ => .error .malformed
  | _, [], _ => .ok []
  | fuel + 1, piece :: rest, kind? => do
    let piece := Text.trimSpace piece
    if piece.isEmpty then readItems fuel rest kind?
    else
      let (x, kind) ← readValue fuel true piece
      if kind?.any (· != kind) then throw .malformed
      return x :: (← readItems fuel rest (some kind))

/-- Carries out an assignment to the table at a place. A key is assigned once. A text that goes on
in the next line is given back; the empty key cannot have one. -/
def assign : Nat → List Char → Setting → List Setting.Step →
    Except Fault (Setting × Option Unfinished)
  | 0, _, _, _ => .error .malformed
  | fuel + 1, line, root, place => do
    let (name, value, wellFormed) ← splitAssignment line
    let (root, table, key) ← findKey root place name
    let isFree := match root.at? table with
      | some (.table entries) => (entries.lookup key).isNone
      | _ => false
    if ← isUnfinished value then
      if !isFree then throw .malformed
      if key.isEmpty then throw (.broken .unnamedText)
      return (root, some (.ofLine key value))
    else
      let (x, _) ← readValue fuel wellFormed value
      if isFree then return (root.modify (Setting.put key x) table, none) else throw .malformed

/-- Carries out assignments up to one that is unfinished. -/
def assignAll : Nat → List (List Char) → Setting → List Setting.Step → Except Fault Setting
  | 0, _, _, _ => .error .malformed
  | _, [], root, _ => .ok root
  | fuel + 1, line :: rest, root, place => do
    match ← assign fuel line root place with
    | (root, none) => assignAll fuel rest root place
    | (root, some _) => return root

end

/-- Enough for every value inside a text: each is shorter than what it stands in, and of no text
there are more parts than characters. -/
def depthBound (cs : List Char) : Nat := 2 * cs.length + 4

end MeterPolling.Toml
