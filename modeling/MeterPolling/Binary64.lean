/-!
Binary64 numbers as exact data. A finite number is a sign and the position of its magnitude in the
ascending list of all finite magnitudes, which is also its bit pattern without the sign; the
magnitude itself is a whole number of units of 2^-1074. Each operation computes its exact result in
whole numbers and rounds once, to the nearest magnitude, a tie going to the even one. Nothing here
uses the machine's floating-point unit.
-/
namespace MeterPolling

/-- How many fractions share one exponent. -/
def Binary64.fractions : Nat := 1 <<< 52

/-- How many finite magnitudes there are: the first bit pattern past them is infinity. -/
def Binary64.magnitudes : Nat := 2047 * Binary64.fractions

/-- The number one, in units of 2^-1074. -/
def Binary64.one : Nat := 1 <<< 1074

/-- The quotient as a whole number, the nearest one, and of two equally near the even one. -/
def roundedQuotient (numerator denominator : Nat) : Nat :=
  let floor := numerator / denominator
  let rest := 2 * (numerator % denominator)
  if rest < denominator || (rest == denominator && floor % 2 == 0) then floor else floor + 1

/-- A finite magnitude, by its position among all of them. -/
structure Magnitude where
  code : Nat
  bounded : code < Binary64.magnitudes
deriving DecidableEq

namespace Magnitude

protected def zero : Magnitude := ⟨0, by decide⟩

/-- The magnitude in units of 2^-1074. Below `fractions` the positions are the units themselves;
after that each further block of `fractions` positions doubles the distance. -/
def units (m : Magnitude) : Nat :=
  if m.code < Binary64.fractions then m.code
  else (Binary64.fractions + m.code % Binary64.fractions) <<< (m.code / Binary64.fractions - 1)

/-- The block of positions whose distance is right for a quotient with this whole part. -/
def block (whole : Nat) : Nat := whole.log2 - 52

/-- The position of the magnitude nearest to a quotient of units, were there no largest one. -/
def nearestCode (numerator denominator : Nat) : Nat :=
  let e := block (numerator / denominator)
  e * Binary64.fractions + roundedQuotient numerator (denominator <<< e)

/-- The magnitude nearest to a quotient of units; nothing when that lies past the largest one. -/
def nearest? (numerator denominator : Nat) : Option Magnitude :=
  let c := nearestCode numerator denominator
  if h : c < Binary64.magnitudes then some ⟨c, h⟩ else none

end Magnitude

/-- A binary64 number. The payload and the sign of a NaN are never observed. -/
inductive Binary64 where
  | nan
  | infinite (negative : Bool)
  | finite (negative : Bool) (magnitude : Magnitude)
deriving DecidableEq

namespace Binary64

instance : Inhabited Binary64 := ⟨.finite false .zero⟩

/-- The nearest number to a signed quotient of units, an infinity past the largest. -/
def ofUnits (negative : Bool) (numerator denominator : Nat) : Binary64 :=
  (Magnitude.nearest? numerator denominator).elim (.infinite negative) (.finite negative)

def ofQuotient (negative : Bool) (numerator denominator : Nat) : Binary64 :=
  ofUnits negative (numerator * one) denominator

def ofInt (n : Int) : Binary64 := ofQuotient (n < 0) n.natAbs 1

/-- The nearest number to an integer, where there is a finite one. -/
def ofInt? (n : Int) : Option Binary64 :=
  (Magnitude.nearest? (n.natAbs * one) 1).map (.finite (n < 0))

def zero : Binary64 := .finite false .zero

/-- A magnitude with its sign, in units of 2^-1074. -/
def signedUnits (negative : Bool) (m : Magnitude) : Int :=
  if negative then -(m.units : Int) else m.units

/-- The value of a finite number in units of 2^-1074. -/
def units? : Binary64 → Option Int
  | .finite negative m => some (signedUnits negative m)
  | _ => none

def isNaN : Binary64 → Bool
  | .nan => true
  | _ => false

def isZero : Binary64 → Bool
  | .finite _ m => m.code == 0
  | _ => false

protected def neg : Binary64 → Binary64
  | .nan => .nan
  | .infinite s => .infinite !s
  | .finite s m => .finite (!s) m

/-- The sum. A sum of zeros is negative only when both are; any other exact zero is positive. -/
protected def add : Binary64 → Binary64 → Binary64
  | .nan, _ => .nan
  | _, .nan => .nan
  | .infinite s, .infinite t => if s = t then .infinite s else .nan
  | .infinite s, .finite .. => .infinite s
  | .finite .., .infinite t => .infinite t
  | .finite s a, .finite t b =>
    let sum := signedUnits s a + signedUnits t b
    if sum = 0 then .finite (s && t) .zero else ofUnits (sum < 0) sum.natAbs 1

protected def sub (x y : Binary64) : Binary64 := x.add y.neg

protected def mul : Binary64 → Binary64 → Binary64
  | .nan, _ => .nan
  | _, .nan => .nan
  | .infinite s, .infinite t => .infinite (s != t)
  | .infinite s, .finite t b => if b.code = 0 then .nan else .infinite (s != t)
  | .finite s a, .infinite t => if a.code = 0 then .nan else .infinite (s != t)
  | .finite s a, .finite t b => ofUnits (s != t) (a.units * b.units) one

/-- The quotient, for a divisor that is not zero. -/
protected def div : Binary64 → Binary64 → Binary64
  | .nan, _ => .nan
  | _, .nan => .nan
  | .infinite _, .infinite _ => .nan
  | .infinite s, .finite t _ => .infinite (s != t)
  | .finite s _, .infinite t => .finite (s != t) .zero
  | .finite s a, .finite t b => ofQuotient (s != t) a.units b.units

instance : Neg Binary64 := ⟨Binary64.neg⟩
instance : Add Binary64 := ⟨Binary64.add⟩
instance : Sub Binary64 := ⟨Binary64.sub⟩
instance : Mul Binary64 := ⟨Binary64.mul⟩
instance : Div Binary64 := ⟨Binary64.div⟩

/-- Numeric order on numbers that are not NaN; every comparison with a NaN is false. -/
def less : Binary64 → Binary64 → Bool
  | .nan, _ => false
  | _, .nan => false
  | .infinite s, .infinite t => s && !t
  | .infinite s, .finite .. => s
  | .finite .., .infinite t => !t
  | .finite s a, .finite t b => decide (signedUnits s a < signedUnits t b)

/-- Numeric equality: the two zeros are equal, a NaN equals nothing. -/
def same : Binary64 → Binary64 → Bool
  | .nan, _ => false
  | _, .nan => false
  | x, y => x == y || (x.isZero && y.isZero)

/-- The interchange format: sign, eleven bits of exponent, fifty-two of fraction. -/
def toBits : Binary64 → Nat
  | .nan => magnitudes + fractions / 2
  | .infinite s => (if s then 1 <<< 63 else 0) + magnitudes
  | .finite s m => (if s then 1 <<< 63 else 0) + m.code

/-- The nearest whole number, a tie going to the even one; nothing for NaN and the infinities. -/
def toNearestInt? : Binary64 → Option Int
  | .finite s m =>
    let n : Int := roundedQuotient m.units one
    some (if s then -n else n)
  | _ => none

/-- The whole number next to a finite number on the side of zero. -/
def truncate? : Binary64 → Option Int
  | .finite s m =>
    let n : Int := m.units / one
    some (if s then -n else n)
  | _ => none

end Binary64

end MeterPolling
