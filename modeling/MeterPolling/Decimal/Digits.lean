import MeterPolling.Binary64
/-!
Decimal digits of a magnitude. Every magnitude is a finite decimal, a whole number of units of
10^-1074, so that each rounding here is exact. Main functions: the given number of significant
digits, the given number of places, and the fewest digits that read back.
-/
namespace MeterPolling.Decimal

/-- How many decimal digits a whole number has; zero has one. -/
def digitCount (n : Nat) : Nat := if n < 10 then 1 else digitCount (n / 10) + 1

/-- The decimal number d.ddd * 10^exponent whose digits, read as one whole number, are `digits`. -/
structure Scientific where
  digits : Nat
  exponent : Int
deriving DecidableEq

/-- The magnitude in units of 10^-1074. -/
def exactUnits (m : Magnitude) : Nat := m.units * Nat.pow 5 1074

/-- A count of units of 10^-1074, seen from the grid of the numbers with `p` digits like it. -/
structure Grid where
  /-- The count is multiplied by `up` and divided by `down` to be measured in steps of the grid. -/
  up : Nat
  down : Nat
  /-- The first count with one more digit. -/
  limit : Nat
  /-- The exponent of the leading digit. -/
  exponent : Int

/-- The grid of `p` digits for a count that has `count` digits. -/
def Grid.of (p count : Nat) : Grid where
  up := Nat.pow 10 (p - count)
  down := Nat.pow 10 (count - p)
  limit := Nat.pow 10 p
  exponent := (count : Int) - 1075

/-- The number at a step of the grid. -/
def Grid.number (g : Grid) (step : Nat) : Scientific :=
  if step = g.limit then ⟨g.limit / 10, g.exponent + 1⟩ else ⟨step, g.exponent⟩

/-- The magnitude to `p` significant digits, the nearest such number, a tie going to the even
digit. -/
def toPrecision (m : Magnitude) (p : Nat) : Scientific :=
  let n := exactUnits m
  let g := Grid.of p (digitCount n)
  g.number (roundedQuotient (n * g.up) g.down)

/-- The magnitude in units of the last of `places` decimal places, a tie going to the even digit. -/
def toPlaces (m : Magnitude) (places : Nat) : Nat :=
  roundedQuotient (m.units * Nat.pow 10 places) Binary64.one

/-- Whether the magnitude nearest to a step of the grid is this one. -/
def Grid.readsBack (g : Grid) (m : Magnitude) (step : Nat) : Bool :=
  Magnitude.nearest? (step * g.down) (g.up * Nat.pow 5 1074) == some m

/-- Of the two neighbours on the grid, the nearest one that reads back; an even digit wins a tie. -/
def Grid.shortest? (g : Grid) (m : Magnitude) : Option Scientific :=
  let n := exactUnits m * g.up
  let low := n / g.down
  let near := roundedQuotient n g.down
  let far := if near = low then low + 1 else low
  if g.readsBack m near then some (g.number near)
  else if g.readsBack m far then some (g.number far)
  else none

/-- The fewest digits that read back. Seventeen always do. -/
def shortest (m : Magnitude) : Scientific :=
  let count := digitCount (exactUnits m)
  ((List.range 17).findSome? fun k => (Grid.of (k + 1) count).shortest? m).getD (toPrecision m 17)

end MeterPolling.Decimal
