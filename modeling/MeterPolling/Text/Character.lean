import MeterPolling.Text.DigitTable
import MeterPolling.Text.LetterTable
import MeterPolling.Text.PrintableTable
import MeterPolling.Text.UppercaseTable
/-!
Classes of characters over all of Unicode: blanks around numerals, decimal digits with their values,
digits in the wider sense, printable characters, and upper-case text.
-/
namespace MeterPolling.Text

/-- The characters that may surround a numeral: the blanks of Unicode, and of ASCII only the space,
the tabulators, the line ends and the form feed. -/
def isBlank (c : Char) : Bool :=
  let n := c.toNat
  (9 ≤ n && n ≤ 13) || n == 0x20 || n == 0x85 || n == 0xa0 || n == 0x1680 ||
    (0x2000 ≤ n && n ≤ 0x200a) || n == 0x2028 || n == 0x2029 || n == 0x202f || n == 0x205f ||
    n == 0x3000

/-- The value of a decimal digit of any script. -/
def decimalValue? (c : Char) : Option Nat :=
  let n := c.toNat
  if n < 0x80 then
    if 0x30 ≤ n && n ≤ 0x39 then some (n - 0x30) else none
  else
    (decimalZeros.find? fun first => first ≤ n && n < first + 10).map (n - ·)

/-- Whether the character stands for a digit, be it one of decimal numbers or not. -/
def isDigit (c : Char) : Bool :=
  (decimalValue? c).isSome || otherDigits.any fun r => r.1 ≤ c.toNat && c.toNat ≤ r.2

/-- Whether the character is a letter or stands for a number. -/
def isLetterOrNumber (c : Char) : Bool :=
  let n := c.toNat
  if n < 0x80 then c.isAlphanum else wordRanges.any fun r => r.1 ≤ n && n ≤ r.2

/-- Whether the character is shown as itself. -/
def isPrintable (c : Char) : Bool :=
  let n := c.toNat
  if n < 0x80 then 0x20 ≤ n && n < 0x7f
  else !unprintableRanges.any fun r => r.1 ≤ n && n ≤ r.2

/-- The upper-case form of a character, which may be several characters. -/
def upperChar (c : Char) : List Char :=
  let n := c.toNat
  if n < 0x80 then [c.toUpper]
  else
    match uppercaseRuns.find? fun (first, last, step, _) =>
      first ≤ n && n ≤ last && (n - first) % step == 0 with
    | some (_, _, _, distance) => [Char.ofNat ((n : Int) + distance).toNat]
    | none =>
      match uppercaseExpansions.find? (·.1 == n) with
      | some (_, letters) => letters.map Char.ofNat
      | none => [c]

def upper (s : String) : String := String.ofList (s.toList.flatMap upperChar)

/-- The blanks of running text: those around numerals, and the four separators of ASCII. -/
def isSpace (c : Char) : Bool := isBlank c || (0x1c ≤ c.toNat && c.toNat ≤ 0x1f)

/-- The text without the blanks at its ends, those of running text. -/
def trimSpace (cs : List Char) : List Char :=
  ((cs.dropWhile isSpace).reverse.dropWhile isSpace).reverse

/-- The text without the blanks at its ends. -/
def trimBlanks (cs : List Char) : List Char :=
  ((cs.dropWhile isBlank).reverse.dropWhile isBlank).reverse

end MeterPolling.Text
