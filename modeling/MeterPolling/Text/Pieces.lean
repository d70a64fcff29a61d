/-!
Texts taken apart and put together: the pieces between separators, the part before and after a
mark, and the parts inside and outside quotes.
-/
namespace MeterPolling.Text

/-- Goes through a text; `passing` characters of a separator just found are still to be left out. -/
private def pieces (separator : List Char) : Nat → Nat → List Char → List Char → List (List Char)
  | _, _, piece, [] => [piece.reverse]
  | limit, passing + 1, piece, _ :: rest => pieces separator limit passing piece rest
  | 0, 0, piece, c :: rest => pieces separator 0 0 (c :: piece) rest
  | limit + 1, 0, piece, c :: rest =>
    if separator.isPrefixOf (c :: rest) then
      piece.reverse :: pieces separator limit (separator.length - 1) [] rest
    else pieces separator (limit + 1) 0 (c :: piece) rest

/-- The pieces of a text between its separators, of which at most the first `limit` count. -/
def splitAtMost (separator : List Char) (limit : Nat) (cs : List Char) : List (List Char) :=
  pieces separator limit 0 [] cs

/-- The pieces of a text between its separators. -/
def split (separator cs : List Char) : List (List Char) := splitAtMost separator cs.length cs

/-- What stands before and after the first place of a character; all, and nothing, without one. -/
def cutAt (c : Char) (cs : List Char) : List Char × List Char :=
  (cs.takeWhile (· != c), (cs.dropWhile (· != c)).drop 1)

/-- Cuts a further piece at its single quotes for as long as one is open, that is, while the number
of parts is even. Gives the parts and the pieces that are left. -/
private def closeSingle (parts : List (List Char)) :
    List (List Char) → List (List Char) × List (List Char)
  | [] => (parts, [])
  | piece :: rest =>
    if parts.length % 2 == 1 then (parts, piece :: rest)
    else
      let last := parts.getLastD [] ++ '"' :: piece
      closeSingle (parts.dropLast ++ split ['\''] last) rest

/-- The parts of a line outside and inside quotes, by turns, the first one outside. Double quotes
cut the line all along. Single quotes cut it up to the first double quote that is in no single
quotes, and from there to the next double quote, but no further. -/
def quoteParts (line : List Char) : List (List Char) :=
  match split ['"'] line with
  | [] => []
  | [piece] => split ['\''] piece
  | first :: rest =>
    if first.contains '\'' then
      let (parts, left) := closeSingle (split ['\''] first) rest
      parts ++ cutFirst left
    else first :: rest
where
  cutFirst : List (List Char) → List (List Char)
    | [] => []
    | piece :: rest => split ['\''] piece ++ rest

/-- The text without its first and last `n` characters. -/
def inner (n : Nat) (cs : List Char) : List Char := (cs.drop n).take (cs.length - 2 * n)

/-- Whether an odd number of backslashes stands at the end, so that what follows is escaped. -/
def endsEscaping (cs : List Char) : Bool := (cs.reverse.takeWhile (· == '\\')).length % 2 == 1

end MeterPolling.Text
