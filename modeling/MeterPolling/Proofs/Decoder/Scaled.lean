import Mathlib.Data.List.Induction
import MeterPolling.Decoder
import MeterPolling.Proofs.Value
/-!
Scaled registers. The count that the registers hold is divided by the scalar, and the exact quotient is
rounded once, whether the scalar is an integer or a binary64 number. For an integer the quotient is
computed in whole numbers. For a binary64 number the count is turned into one as well, and no count is
so large that it would be rounded there; so the two ways agree, and neither turns two counts around.
-/
namespace MeterPolling

/-! ## Counts -/

/-- No count is larger than its bytes can hold. -/
theorem bigEndian_lt (bytes : List UInt8) : bigEndian bytes < 256 ^ bytes.length := by
  induction bytes using List.reverseRecOn with
  | nil => exact Nat.one_pos
  | append_singleton bytes byte ih =>
    have small : byte.toNat < 256 := byte.toNat_lt
    rw [bigEndian, List.foldl_concat, List.length_append, List.length_singleton, Nat.pow_succ]
    rw [bigEndian] at ih
    omega

namespace Encoding

variable {encoding : Encoding} {bytes : List UInt8}

theorem count_lt (fills : bytes.length = 2 * encoding.registerCount) :
    bigEndian bytes < 2 ^ (16 * encoding.registerCount) := by
  have bound := bigEndian_lt bytes
  rw [fills, Nat.pow_mul] at bound
  rwa [Nat.pow_mul]

theorem count_le (fills : bytes.length = 2 * encoding.registerCount) :
    bigEndian bytes ≤ 2 * 2 ^ 52 := by
  have bound := count_lt fills
  cases encoding <;> exact Nat.le_of_lt (Nat.lt_of_lt_of_le bound (by decide))

end Encoding

/-! ## Quotients -/

namespace Binary64

variable {n : Nat} {scalar : Number} {q : ℚ}

/-- No number of that many bits is rounded. -/
theorem ofInt_count (small : n ≤ 2 * 2 ^ 52) :
    ∃ m : Magnitude, ofInt n = .finite false m ∧ m.value = n := by
  obtain ⟨m, units⟩ := Magnitude.exists_units (e := 1074) small (by decide)
  have value := value_shift units
  have rounds := ofQuotient_rounds false n Nat.one_pos
  rw [Nat.cast_one, div_one, ← value] at rounds
  exact ⟨m, rounds.of_value, value⟩

/-- The quotient of a count and a number is rounded once. -/
theorem ofCountOver_rounds (small : n ≤ 2 * 2 ^ 52) (value : scalar.value? = some q)
    (nonzero : q ≠ 0) : Rounds (q < 0) (n / |q|) (ofCountOver n scalar) := by
  cases scalar with
  | integer d =>
    obtain rfl : (d : ℚ) = q := Option.some.inj value
    have positive : 0 < d.natAbs := Int.natAbs_pos.mpr (Int.cast_ne_zero.mp nonzero)
    have rounds := ofQuotient_rounds (d < 0) n positive
    rw [Nat.cast_natAbs, Int.cast_abs] at rounds
    have sign : decide (d < 0) = decide ((d : ℚ) < 0) := decide_eq_decide.mpr Int.cast_lt_zero.symm
    rw [← sign]
    exact rounds
  | real x =>
    obtain ⟨s, m, rfl, rfl⟩ := value_cases value
    obtain ⟨a, count, exact⟩ := ofInt_count small
    have above : 0 < m.value := by
      rw [← abs_signedValue s]
      exact abs_pos.mpr nonzero
    have sign : decide (signedValue s m < 0) = s := by
      cases s with
      | false => exact decide_eq_false (not_lt.mpr (le_of_lt above))
      | true => exact decide_eq_true (neg_neg_of_pos above)
    have quotient : (a.units / m.units : ℚ) = n / m.value := by
      rw [← exact, Magnitude.value_eq, Magnitude.value_eq,
        mul_div_mul_right _ _ (ne_of_gt Interchange.double.least_pos)]
    have positive : 0 < m.units := by
      apply Nat.pos_of_ne_zero
      intro none
      rw [Magnitude.value_eq, none, Nat.cast_zero, zero_mul] at above
      exact lt_irrefl _ above
    have rounds := ofQuotient_rounds (false != s) a.units positive
    rw [quotient] at rounds
    have divided : Binary64.finite false a / .finite s m = ofQuotient (false != s) a.units m.units :=
      rfl
    rw [sign, abs_signedValue, ofCountOver, count, divided]
    rwa [Bool.false_bne] at rounds ⊢

end Binary64

/-! ## Readings -/

namespace Decoder

/-- How a decoder of the given encoding reads counts that are to be divided by an exact scalar. -/
structure Divides (encoding : Encoding) (scalar : ℚ) (d : Decoder) : Prop where
  /-- The payload of the registers holds an unsigned integer of as many bits. -/
  range : ∀ bytes, bytes.length = 2 * encoding.registerCount →
    bigEndian bytes < 2 ^ (16 * encoding.registerCount)
  /-- What is read from it is the exact quotient, rounded once. -/
  rounded : ∀ bytes, bytes.length = 2 * encoding.registerCount →
    ∃ x, d.decode bytes = .ok x ∧ Binary64.Rounds (scalar < 0) (bigEndian bytes / |scalar|) x
  /-- Only what is too large for a number is read as an infinity. -/
  overflow : ∀ bytes x, d.decode bytes = .ok x →
    (x = .infinite (scalar < 0) ↔ (2 : ℚ) ^ 1024 - 2 ^ 970 ≤ bigEndian bytes / |scalar|)
  /-- Only what is too small for one is read as a zero. -/
  underflow : ∀ bytes x, d.decode bytes = .ok x →
    (x = .finite (scalar < 0) .zero ↔ bigEndian bytes / |scalar| ≤ (2 : ℚ) ^ (-1075 : ℤ))
  /-- Scalars of the same value read the same. -/
  same : ∀ other : Decoder, other.encoding = encoding → other.scalar.value? = some scalar →
    ∀ bytes, other.decode bytes = d.decode bytes
  /-- A positive scalar keeps the order of the counts. -/
  ascending : 0 < scalar → ∀ bytes bytes' x x', d.decode bytes = .ok x → d.decode bytes' = .ok x' →
    bigEndian bytes ≤ bigEndian bytes' → x ≤ x'

variable {encoding : Encoding} {number : Number} {scalar : ℚ} {d : Decoder} {bytes : List UInt8}
  {x : Binary64}

theorem decode_scaled (scaled : d.encoding.isScaled = true) (bytes : List UInt8) :
    d.decode bytes =
      if bytes.length = 2 * d.encoding.registerCount then
        .ok (.ofCountOver (bigEndian bytes) d.scalar)
      else .error (.length (2 * d.encoding.registerCount) bytes.length) := by
  obtain ⟨encoding, scalar, nonzero⟩ := d
  unfold decode Encoding.read
  simp only [ne_eq, ite_not]
  split
  · cases encoding with
    | raw16 => cases scaled
    | raw32 => cases scaled
    | scaled16 => simp only [nonzero, Bool.false_eq_true, if_false]
    | scaled32 => simp only [nonzero, Bool.false_eq_true, if_false]
  · rfl

theorem value_ne_zero (value : d.scalar.value? = some scalar) : scalar ≠ 0 := by
  intro none
  have zero := (Number.isZero_iff value).mpr none
  rw [d.scalar_ne_zero] at zero
  cases zero

theorem decode_rounds (scaled : d.encoding.isScaled = true) (value : d.scalar.value? = some scalar)
    (decoded : d.decode bytes = .ok x) :
    Binary64.Rounds (scalar < 0) (bigEndian bytes / |scalar|) x := by
  rw [decode_scaled scaled] at decoded
  split at decoded
  · rename_i fills
    cases decoded
    exact Binary64.ofCountOver_rounds (Encoding.count_le fills) value (value_ne_zero value)
  · cases decoded

theorem decode_same {other : Decoder} (scaled : d.encoding.isScaled = true)
    (encoding : other.encoding = d.encoding) (value : d.scalar.value? = some scalar)
    (also : other.scalar.value? = some scalar) (bytes : List UInt8) :
    other.decode bytes = d.decode bytes := by
  rw [decode_scaled scaled, decode_scaled (encoding ▸ scaled), encoding]
  split
  · rename_i fills
    have small := Encoding.count_le fills
    have first := Binary64.ofCountOver_rounds small value (value_ne_zero value)
    have second := Binary64.ofCountOver_rounds small also (value_ne_zero value)
    rw [second.unique first]
  · rfl

/-- Scaled registers are read to the nearest number. -/
theorem reads_nearest (scaled : encoding.isScaled = true) (value : number.value? = some scalar)
    (nonzero : scalar ≠ 0) :
    ∃ d, make? encoding number = .ok d ∧ Divides encoding scalar d := by
  have given : number.isZero = false := by
    rw [← Bool.not_eq_true, Number.isZero_iff value]
    exact nonzero
  have rounds {bytes x} := @decode_rounds scalar ⟨encoding, number, given⟩ bytes x scaled value
  refine ⟨⟨encoding, number, given⟩, dif_pos given, ?_⟩
  constructor
  case range => exact fun bytes => Encoding.count_lt
  case rounded =>
    intro bytes fills
    have decoded := (decode_scaled (d := ⟨encoding, number, given⟩) scaled bytes).trans (if_pos fills)
    exact ⟨_, decoded, rounds decoded⟩
  case overflow => exact fun bytes x decoded => (rounds decoded).infinite_iff
  case underflow => exact fun bytes x decoded => (rounds decoded).zero_iff
  case same => exact fun other encoding also => decode_same scaled encoding value also
  case ascending =>
    intro positive bytes bytes' x x' decoded decoded' le
    have sign : decide (scalar < 0) = false := decide_eq_false (not_lt.mpr (le_of_lt positive))
    have first := rounds decoded
    have second := rounds decoded'
    rw [sign] at first second
    apply first.mono second
    exact div_le_div_of_nonneg_right (Nat.cast_le.mpr le) (abs_nonneg scalar)

/-- The number nearest to a third; no number is a third. -/
def third : Magnitude := ⟨0x3FD5555555555555, by decide⟩

theorem third_less : third.value < 1 / 3 := by
  rw [Magnitude.value, Interchange.value]
  norm_num [third, Interchange.double]

/-- Over a negative integer, an empty register is a negative zero, and a quotient that is no number is
rounded. -/
theorem reads_negative_third : ∃ d, make? .scaled16 (.integer (-3)) = .ok d ∧
    Divides .scaled16 (-3) d ∧ d.decode [0, 0] = .ok (.finite true .zero) ∧
    d.decode [0, 1] = .ok (.finite true third) ∧ third.value < 1 / 3 := by
  have value : (Number.integer (-3)).value? = some (-3) := congrArg some (by norm_num)
  obtain ⟨d, made, divides⟩ := reads_nearest (rfl : Encoding.scaled16.isScaled = true) value
    (by norm_num)
  obtain rfl : (⟨.scaled16, .integer (-3), rfl⟩ : Decoder) = d := Except.ok.inj made
  exact ⟨_, made, divides, by decide +kernel, by decide +kernel, third_less⟩

end Decoder

end MeterPolling
