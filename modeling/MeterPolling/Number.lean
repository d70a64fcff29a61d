import MeterPolling.Binary64
/-!
Numbers as they are given to the program: whole numbers of any size, or binary64 numbers. The two
stay apart, because they are written differently, and are compared by their exact values.
-/
namespace MeterPolling

inductive Number where
  | integer (value : Int)
  | real (value : Binary64)
deriving DecidableEq

namespace Number

instance : Inhabited Number := ⟨.integer 0⟩
instance (n : Nat) : OfNat Number n := ⟨.integer n⟩

/-- The nearest binary64 number; an integer past the largest one gives an infinity. -/
def toBinary64 : Number → Binary64
  | .integer n => .ofInt n
  | .real x => x

/-- As `toBinary64`, but nothing for an integer past the largest finite number. -/
def toBinary64? : Number → Option Binary64
  | .integer n => Binary64.ofInt? n
  | .real x => some x

/-- An exact value on a scale where every finite number is whole, with the infinities at its
ends. -/
private inductive Place where
  | below
  | at (units : Int)
  | above

private def place? : Number → Option Place
  | .integer n => some (.at (n * Binary64.one))
  | .real .nan => none
  | .real (.infinite true) => some .below
  | .real (.infinite false) => some .above
  | .real (.finite s m) => some (.at (if s then -(m.units : Int) else m.units))

/-- Exact order; every comparison with a NaN is false. -/
def less (x y : Number) : Bool :=
  match x.place?, y.place? with
  | some .below, some .below => false
  | some .below, some _ => true
  | some (.at a), some (.at b) => decide (a < b)
  | some (.at _), some .above => true
  | _, _ => false

/-- Exact equality; a NaN equals nothing. -/
def same (x y : Number) : Bool :=
  match x.place?, y.place? with
  | some .below, some .below => true
  | some (.at a), some (.at b) => decide (a = b)
  | some .above, some .above => true
  | _, _ => false

/-- At most: less or equal, hence false for a NaN. -/
def atMost (x y : Number) : Bool := x.less y || x.same y

def isZero : Number → Bool
  | .integer n => n == 0
  | .real x => x.isZero

/-- Carries out an operation, exactly on integers and otherwise on binary64 numbers, which not every
integer is near to. -/
private def combine? (exact : Int → Int → Int) (rounded : Binary64 → Binary64 → Binary64) :
    Number → Number → Option Number
  | .integer m, .integer n => some (.integer (exact m n))
  | x, y => do return .real (rounded (← x.toBinary64?) (← y.toBinary64?))

/-- The sum, unless an integer is past the largest binary64 number that it would have to be. -/
def add? (x y : Number) : Option Number := combine? (· + ·) (· + ·) x y

/-- The difference, on the same condition. -/
def sub? (x y : Number) : Option Number := combine? (· - ·) (· - ·) x y

end Number

/-- The binary64 number nearest to the exact quotient of a count and a number that is not zero. -/
def Binary64.ofCountOver (count : Nat) : Number → Binary64
  | .integer d => .ofQuotient (d < 0) count d.natAbs
  | .real x => Binary64.ofInt count / x

end MeterPolling
