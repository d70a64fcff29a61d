import MeterPolling.Setting
/-!
Places in a document: a value is found by the names of tables and by the last elements of lists on
the way to it.
-/
namespace MeterPolling

namespace Setting

inductive Step where
  | entry (key : String)
  /-- The last element of a list. -/
  | latest
deriving DecidableEq

/-- Gives a table an entry: a known key keeps its place, a new one comes last. -/
def putEntry {α : Type} (key : String) (x : α) : List (String × α) → List (String × α)
  | [] => [(key, x)]
  | (k, old) :: rest => if k == key then (k, x) :: rest else (k, old) :: putEntry key x rest

/-- The value with an entry put into it; only a table takes one. -/
def put (key : String) (x : Setting) : Setting → Setting
  | .table entries => .table (putEntry key x entries)
  | y => y

/-- The value with an element added at its end; only a list takes one. -/
def push (x : Setting) : Setting → Setting
  | .list items => .list (items ++ [x])
  | y => y

def at? : List Step → Setting → Option Setting
  | [], x => some x
  | .entry key :: rest, .table entries => (entries.lookup key).bind (at? rest)
  | .latest :: rest, .list items => items.getLast?.bind (at? rest)
  | _, _ => none

/-- The value with the one at a place replaced; a place that does not exist changes nothing. -/
def modify (f : Setting → Setting) : List Step → Setting → Setting
  | [], x => f x
  | .entry key :: rest, .table entries =>
    .table (entries.map fun e => if e.1 == key then (e.1, modify f rest e.2) else e)
  | .latest :: rest, .list items =>
    match items.getLast? with
    | some x => .list (items.dropLast ++ [modify f rest x])
    | none => .list items
  | _, x => x

end Setting

end MeterPolling
