import MeterPolling.Binary64.Single
import MeterPolling.Decimal.Layout
/-!
How the bytes of a reply become a reading: an unsigned register, a binary32 number over two
registers, or an unsigned integer over one or two registers divided by a scalar. A decoder accepts
exactly the bytes of its registers, and its scalar is never zero.
-/
namespace MeterPolling

inductive Encoding where
  | raw16
  | raw32
  | scaled16
  | scaled32
deriving DecidableEq

/-- Why bytes give no reading, or a scalar no decoder. -/
inductive DecodeFault where
  | length (expected got : Nat)
  | divisionByZero
  | zeroScalar
deriving DecidableEq

/-- The wording, where the fault has one of its own. -/
def DecodeFault.message? : DecodeFault → Option String
  | .length expected got => some s!"Expected {expected} bytes, got {got}"
  | .divisionByZero => none
  | .zeroScalar => some "Scalar cannot be 0"

/-- The number whose base-256 digits are the bytes, the leading one first. -/
def bigEndian (bytes : List UInt8) : Nat := bytes.foldl (fun n b => n * 256 + b.toNat) 0

namespace Encoding

def name : Encoding → String
  | .raw16 => "raw16"
  | .raw32 => "raw32"
  | .scaled16 => "scaled16"
  | .scaled32 => "scaled32"

def all : List Encoding := [.raw16, .raw32, .scaled16, .scaled32]

def ofName? (name : String) : Option Encoding := all.find? (·.name == name)

/-- How many registers of sixteen bits it takes. -/
def registerCount : Encoding → Nat
  | .raw16 | .scaled16 => 1
  | .raw32 | .scaled32 => 2

def isScaled : Encoding → Bool
  | .scaled16 | .scaled32 => true
  | _ => false

/-- The reading in the bytes, which have to fill the registers exactly. -/
def read (encoding : Encoding) (scalar : Number) (bytes : List UInt8) :
    Except DecodeFault Binary64 :=
  let size := 2 * encoding.registerCount
  if bytes.length ≠ size then .error (.length size bytes.length)
  else
    match encoding with
    | .raw16 => .ok (.ofInt (bigEndian bytes))
    | .raw32 => .ok (.ofSingle (bigEndian bytes))
    | .scaled16 | .scaled32 =>
      if scalar.isZero then .error .divisionByZero else .ok (.ofCountOver (bigEndian bytes) scalar)

end Encoding

structure Decoder where
  encoding : Encoding
  scalar : Number
  scalar_ne_zero : scalar.isZero = false
deriving DecidableEq

namespace Decoder

/-- The scalar of a decoder that names none. -/
def unitScalar : Number := .real (.finite false ⟨1023 * Binary64.fractions, by decide⟩)

def make? (encoding : Encoding) (scalar : Number) : Except DecodeFault Decoder :=
  if h : scalar.isZero = false then .ok ⟨encoding, scalar, h⟩ else .error .zeroScalar

/-- A binary32 number over two registers. -/
def raw32 : Decoder := ⟨.raw32, unitScalar, by decide⟩

/-- An unsigned integer over one register, divided by a positive scalar. -/
def scaled16 (scalar : Nat) (h : scalar ≠ 0 := by decide) : Decoder :=
  ⟨.scaled16, .integer scalar, by simpa [Number.isZero] using h⟩

/-- An unsigned integer over two registers, divided by a positive scalar. -/
def scaled32 (scalar : Nat) (h : scalar ≠ 0 := by decide) : Decoder :=
  ⟨.scaled32, .integer scalar, by simpa [Number.isZero] using h⟩

def registerCount (d : Decoder) : Nat := d.encoding.registerCount

def decode (d : Decoder) (bytes : List UInt8) : Except DecodeFault Binary64 :=
  d.encoding.read d.scalar bytes

/-- Same encoding and numerically equal scalars. -/
def same (a b : Decoder) : Bool := a.encoding == b.encoding && a.scalar.same b.scalar

/-- The encoding, with the scalar where it matters; nothing when the scalar is an integer past the
largest binary64 number, which has no brief text. -/
def name? (d : Decoder) : Option String :=
  if d.encoding.isScaled then
    d.scalar.briefText?.map fun scalar => "<" ++ d.encoding.name ++ "/" ++ scalar ++ ">"
  else some ("<" ++ d.encoding.name ++ ">")

end Decoder

end MeterPolling
