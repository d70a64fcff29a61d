import MeterPolling.Decimal.Digits
import MeterPolling.Number
import MeterPolling.Text.Fault
/-!
Texts of numbers. A layout says which exponents are written without an exponent mark and whether a
whole number keeps a fraction; the digits come from `Decimal.Digits`.
-/
namespace MeterPolling.Decimal

/-- How the digits of a number are laid out. -/
structure Layout where
  /-- The least exponent that is written positionally. -/
  positionalFrom : Int
  /-- The least exponent above it that no longer is. -/
  positionalBelow : Int
  /-- Whether a positional whole number ends in a point and a zero. -/
  keepsFraction : Bool

/-- Readings and settings: every digit needed, positional from 1e-4 to below 1e16. -/
def Layout.plain : Layout := ⟨-4, 16, true⟩

/-- Scalars in the names of decoders: six digits, positional from 1e-4 to below 1e6. -/
def Layout.brief : Layout := ⟨-4, 6, false⟩

private def zeros (n : Nat) : String := String.ofList (List.replicate n '0')

private def dropTrailingZeros (s : String) : String :=
  String.ofList (s.toList.reverse.dropWhile (· == '0')).reverse

/-- The exponent mark, with a sign and at least two digits. -/
def exponentText (e : Int) : String :=
  let digits := toString e.natAbs
  (if e < 0 then "e-" else "e+") ++ (if digits.length < 2 then "0" ++ digits else digits)

/-- The digits at the exponent of the first of them. Zeros at the end of a fraction are left out. -/
def Layout.write (layout : Layout) (number : Scientific) : String :=
  let digits := dropTrailingZeros (toString number.digits)
  let digits := if digits.isEmpty then "0" else digits
  let e := number.exponent
  if e < layout.positionalFrom || layout.positionalBelow ≤ e then
    let rest := digits.toList.drop 1
    String.ofList (digits.toList.take 1) ++ (if rest.isEmpty then "" else "." ++ String.ofList rest)
      ++ exponentText e
  else if e < 0 then
    "0." ++ zeros (e.natAbs - 1) ++ digits
  else
    let whole := e.natAbs + 1
    let cs := digits.toList
    if whole < cs.length then String.ofList (cs.take whole) ++ "." ++ String.ofList (cs.drop whole)
    else digits ++ zeros (whole - cs.length) ++ (if layout.keepsFraction then ".0" else "")

private def signed (negative : Bool) (text : String) : String :=
  if negative then "-" ++ text else text

/-- A finite magnitude by `digits`, zero as itself, and the names of the other numbers. -/
private def special (x : Binary64) (finite : Magnitude → String) : String :=
  match x with
  | .nan => "nan"
  | .infinite s => signed s "inf"
  | .finite s m => signed s (finite m)

/-- The fewest digits that read back. -/
def text (x : Binary64) : String :=
  special x fun m => Layout.plain.write (if m.code = 0 then ⟨0, 0⟩ else shortest m)

/-- Six significant digits. -/
def briefText (x : Binary64) : String :=
  special x fun m => Layout.brief.write (if m.code = 0 then ⟨0, 0⟩ else toPrecision m 6)

/-- A fixed number of places, at least one. -/
def fixedText (places : Nat) (x : Binary64) : String :=
  special x fun m =>
    let n := toPlaces m places
    let parts := Nat.pow 10 places
    let fraction := toString (n % parts)
    toString (n / parts) ++ "." ++ zeros (places - fraction.length) ++ fraction

/-- Upper-case hexadecimal, filled with zeros to at least `width` characters, the sign among
them. -/
def hexText (width : Nat) (n : Int) : String :=
  let digits := (String.ofList (Nat.toDigits 16 n.natAbs)).map Char.toUpper
  let sign := if n < 0 then "-" else ""
  sign ++ zeros (width - digits.length - sign.length) ++ digits

/-- Lower-case hexadecimal without filling. -/
def plainHexText (n : Int) : String :=
  (if n < 0 then "-" else "") ++ String.ofList (Nat.toDigits 16 n.natAbs)

end MeterPolling.Decimal

namespace MeterPolling.Number

/-- An integer in decimal digits, unless they are too many; a binary64 number by the fewest digits
that read back. -/
def text : Number → Except Text.Fault String
  | .integer n => if Nat.pow 10 Text.maxDigits ≤ n.natAbs then .error .digits else .ok (toString n)
  | .real x => .ok (Decimal.text x)

/-- Six significant digits; nothing for an integer past the largest binary64 number. -/
def briefText? (x : Number) : Option String := x.toBinary64?.map Decimal.briefText

end MeterPolling.Number
