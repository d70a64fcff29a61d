import MeterPolling.Text.Character
import MeterPolling.Text.Fault
import MeterPolling.Number
/-!
Reading numerals. A whole number may have blanks around it, a sign, digits of any script and single
underscores between digits; a number with a fraction or an exponent follows the same rules. Decimal
numerals are limited in length, so that reading one takes bounded work.
-/
namespace MeterPolling.Text.Numeral

/-- The value of a digit in bases up to thirty-six. -/
def digitValue? (c : Char) : Option Nat :=
  match decimalValue? c with
  | some d => some d
  | none =>
    if 'a' ≤ c && c ≤ 'z' then some (c.toNat - 'a'.toNat + 10)
    else if 'A' ≤ c && c ≤ 'Z' then some (c.toNat - 'A'.toNat + 10)
    else none

/-- The digit values of a run of digits with single underscores between them. -/
def digits? (base : Nat) : List Char → Option (List Nat)
  | [] => none
  | [c] => (digitValue? c).bind fun d => if d < base then some [d] else none
  | c :: '_' :: rest => do
    let d ← digitValue? c
    if d < base then (d :: ·) <$> digits? base rest else none
  | c :: rest => do
    let d ← digitValue? c
    if d < base then (d :: ·) <$> digits? base rest else none

/-- The number with these digits, the leading one first. -/
def value (base : Nat) (ds : List Nat) : Nat := ds.foldl (fun n d => n * base + d) 0

/-- The sign, when there is one, and what follows it. -/
def splitSign : List Char → Bool × List Char
  | '-' :: rest => (true, rest)
  | '+' :: rest => (false, rest)
  | cs => (false, cs)

private def signed (negative : Bool) (n : Nat) : Int := if negative then -(n : Int) else n

/-- What follows the mark of the base, where one may stand, and an underscore after that. -/
private def dropBaseMark (base : Nat) : List Char → List Char
  | cs@('0' :: mark :: rest) =>
    let m := mark.toLower
    if (base == 16 && m == 'x') || (base == 8 && m == 'o') || (base == 2 && m == 'b') then
      match rest with
      | '_' :: more => more
      | _ => rest
    else cs
  | cs => cs

/-- A digit of any script as that of ASCII; any other character as it is. -/
def plainDigit (c : Char) : Char :=
  match decimalValue? c with
  | some d => Nat.digitChar d
  | none => c

/-- The sign of a numeral and what follows it, without blanks and in plain digits. -/
def signAndRest (s : String) : Bool × List Char :=
  splitSign ((trimBlanks s.toList).map plainDigit)

/-- A whole number in the given base. -/
def readInBase? (base : Nat) (s : String) : Option Int := do
  let (negative, rest) := signAndRest s
  let ds ← digits? base (dropBaseMark base rest)
  if base == 10 && ds.length > maxDigits then none
  else some (signed negative (value base ds))

def readInt? (s : String) : Option Int := readInBase? 10 s

private theorem dropBaseMark_ten (cs : List Char) : dropBaseMark 10 cs = cs := by
  unfold dropBaseMark
  split
  · simp
  · rfl

/-- A decimal numeral has no mark of a base, only a sign and so many digits. -/
theorem readInt?_eq (s : String) : readInt? s =
    (digits? 10 (signAndRest s).2).bind fun ds =>
      if ds.length > maxDigits then none
      else some (if (signAndRest s).1 then -(value 10 ds : Int) else value 10 ds) := by
  unfold readInt? readInBase?
  simp only [dropBaseMark_ten, beq_self_eq_true, Bool.true_and, decide_eq_true_eq]
  rfl

/-- A whole number whose mark, if any, names its base; a decimal one starts with zero only if it is
zero. -/
def readMarked? (s : String) : Option Int :=
  match (signAndRest s).2 with
  | '0' :: mark :: _ =>
    match mark.toLower with
    | 'x' => readInBase? 16 s
    | 'o' => readInBase? 8 s
    | 'b' => readInBase? 2 s
    | _ => (readInBase? 10 s).bind fun n => if n = 0 then some 0 else none
  | _ => readInBase? 10 s

/-- The leading digits of a text, with single underscores between them, and what follows. -/
def takeDigits : List Char → List Nat × List Char
  | [] => ([], [])
  | c :: '_' :: next :: rest =>
    match decimalValue? c with
    | none => ([], c :: '_' :: next :: rest)
    | some d =>
      if (decimalValue? next).isSome then
        let (ds, left) := takeDigits (next :: rest)
        (d :: ds, left)
      else ([d], '_' :: next :: rest)
  | c :: rest =>
    match decimalValue? c with
    | none => ([], c :: rest)
    | some d =>
      let (ds, left) := takeDigits rest
      (d :: ds, left)

/-- The binary64 number nearest to digits * 10^exponent. Exponents far outside the range are decided
without computing the power. -/
def ofDecimal (negative : Bool) (digits : Nat) (exponent : Int) : Binary64 :=
  let count : Int := (Nat.toDigits 10 digits).length
  if digits = 0 then .finite negative .zero
  else if exponent + count > 400 then .infinite negative
  else if exponent + count < -400 then .finite negative .zero
  else
    let scale := Nat.pow 10 exponent.natAbs
    if exponent < 0 then .ofQuotient negative digits scale
    else .ofQuotient negative (digits * scale) 1

/-- What follows the digits before the point: a fraction and an exponent, each optional. -/
private def readScientific? (negative : Bool) (cs : List Char) : Option Binary64 := do
  let (whole, rest) := takeDigits cs
  let (fraction, rest) := match rest with
    | '.' :: more => takeDigits more
    | _ => ([], rest)
  if whole.isEmpty && fraction.isEmpty then none
  else
    let digits := value 10 (whole ++ fraction)
    let scale : Int := -(fraction.length : Int)
    match rest with
    | [] => some (ofDecimal negative digits scale)
    | e :: more =>
      if e == 'e' || e == 'E' then
        let (down, more) := splitSign more
        let (ds, left) := takeDigits more
        if ds.isEmpty || !left.isEmpty then none
        else some (ofDecimal negative digits (scale + signed down (value 10 ds)))
      else none

/-- A number with an optional fraction and exponent, or the name of an infinity or of NaN. -/
def readBinary64? (s : String) : Option Binary64 :=
  let (negative, rest) := splitSign (trimBlanks s.toList)
  match String.ofList (rest.map Char.toLower) with
  | "inf" => some (.infinite negative)
  | "infinity" => some (.infinite negative)
  | "nan" => some .nan
  | _ => readScientific? negative rest

end MeterPolling.Text.Numeral
