import MeterPolling.Binary64.Single
import MeterPolling.Proofs.Value
/-!
Binary32 numbers read as binary64 ones. What a pattern means is said here by the interchange format
and not by the way it is read: each of the five kinds of pattern has its own number. Nothing is lost,
so the pattern can be had back by rounding to the narrower format.
-/
namespace MeterPolling.Binary64

/-- The binary32 pattern of these fields: one bit of sign, eight of exponent, and the fraction. -/
def single (negative : Bool) (exponent fraction : Nat) : Nat :=
  negative.toNat * 2 ^ 31 + exponent * 2 ^ 23 + fraction

/-- The binary64 number for a binary32 pattern. A finite one has the same sign and the same
magnitude. -/
inductive Widens : Nat → Binary64 → Prop where
  | nan (s : Bool) (f : Nat) : 0 < f → f < 2 ^ 23 → Widens (single s 255 f) .nan
  | infinite (s : Bool) : Widens (single s 255 0) (.infinite s)
  | zero (s : Bool) : Widens (single s 0 0) (.finite s .zero)
  /-- A subnormal number has an exponent in the wider format. -/
  | subnormal (s : Bool) (f : Nat) (m : Magnitude) : 0 < f → f < 2 ^ 23 →
      m.value = Interchange.single.value f → fractions ≤ m.code →
      Widens (single s 0 f) (.finite s m)
  /-- A normal one keeps its exponent, which is counted from another bias, and its fraction, to which
  zeros are added. -/
  | normal (s : Bool) (e f : Nat) (m : Magnitude) : 0 < e → e < 255 → f < 2 ^ 23 →
      m.value = Interchange.single.value (e * 2 ^ 23 + f) →
      m.code = (e + 1023 - 127) * 2 ^ 52 + f * 2 ^ (52 - 23) →
      Widens (single s e f) (.finite s m)

/-- The binary32 pattern to which a binary64 number is rounded, to the nearest, ties to even. NaN is
left out. -/
inductive Narrows : Binary64 → Nat → Prop where
  | infinite (s : Bool) : Narrows (.infinite s) (single s 255 0)
  | finite (s : Bool) (m : Magnitude) (code : Nat) : Interchange.single.Nearest m.value code →
      code < 255 * 2 ^ 23 → Narrows (.finite s m) (s.toNat * 2 ^ 31 + code)
  | overflow (s : Bool) (m : Magnitude) (code : Nat) : Interchange.single.Nearest m.value code →
      255 * 2 ^ 23 ≤ code → Narrows (.finite s m) (single s 255 0)

variable {s : Bool} {e f n pattern code : Nat} {m : Magnitude} {x : Binary64}

/-! ## Fields -/

theorem exists_fields (bounded : pattern < 2 ^ 32) :
    ∃ s e f, e < 256 ∧ f < 2 ^ 23 ∧ pattern = single s e f := by
  refine ⟨decide (2 ^ 31 ≤ pattern), pattern / 2 ^ 23 % 2 ^ 8, pattern % 2 ^ 23, ?_, ?_, ?_⟩
  · exact Nat.mod_lt _ (by decide)
  · exact Nat.mod_lt _ (by decide)
  · unfold single
    by_cases negative : 2 ^ 31 ≤ pattern
    · rw [decide_eq_true negative, Bool.toNat_true]
      omega
    · rw [decide_eq_false negative, Bool.toNat_false]
      omega

/-- A pattern is read field by field. -/
theorem ofSingle_single (exponent : e < 256) (fraction : f < 2 ^ 23) :
    ofSingle (single s e f) =
      if e = 255 then if f = 0 then .infinite s else .nan
      else ofUnits s (singleUnits e f <<< (1074 - 149)) 1 := by
  have sign : (single s e f >>> 31 % 2 == 1) = s := by
    rw [Nat.shiftRight_eq_div_pow, single]
    cases s with
    | false =>
      rw [Bool.toNat_false, beq_eq_false_iff_ne]
      omega
    | true =>
      rw [Bool.toNat_true, beq_iff_eq]
      omega
  have middle : single s e f >>> 23 % (1 <<< 8) = e := by
    rw [Nat.shiftRight_eq_div_pow, Nat.one_shiftLeft, single]
    omega
  have last : single s e f % (1 <<< 23) = f := by
    rw [Nat.one_shiftLeft, single]
    omega
  simp only [ofSingle, sign, middle, last]

/-! ## Magnitudes -/

/-- Patterns of either format in the units of their exponents. -/
theorem single_block (normal : e = 0 ∨ 2 ^ 23 ≤ n) (within : n ≤ 2 * 2 ^ 23) :
    Interchange.single.units (e * 2 ^ 23 + n) = n * 2 ^ e := Interchange.units_block normal within

theorem double_block (normal : e = 0 ∨ 2 ^ 52 ≤ n) (within : n ≤ 2 * 2 ^ 52) :
    Interchange.double.units (e * 2 ^ 52 + n) = n * 2 ^ e := Interchange.units_block normal within

theorem single_units (fraction : f < 2 ^ 23) :
    Interchange.single.units (e * 2 ^ 23 + f) = singleUnits e f := by
  unfold singleUnits
  rw [Nat.one_shiftLeft, Nat.shiftLeft_eq]
  by_cases subnormal : e = 0
  · have units := single_block (.inl subnormal) (show f ≤ 2 * 2 ^ 23 by omega)
    rw [if_pos subnormal, units, subnormal, pow_zero, mul_one]
  · have units := single_block (e := e - 1) (.inr (Nat.le_add_right _ f)) (by omega)
    have split : (e - 1) * 2 ^ 23 + (2 ^ 23 + f) = e * 2 ^ 23 + f := by omega
    rw [split] at units
    rw [if_neg subnormal, units]

theorem single_least :
    (2 : ℚ) ^ (1074 - 149) * Interchange.double.least = Interchange.single.least := by
  have wide : Interchange.double.least = 2 ^ (-1074 : ℤ) := rfl
  have narrow : Interchange.single.least = 2 ^ (-149 : ℤ) := rfl
  rw [wide, narrow, ← zpow_natCast, ← zpow_add₀ two_ne_zero]
  rfl

/-- A magnitude in either format. -/
theorem value_single (fraction : f < 2 ^ 23) (units : m.units = singleUnits e f <<< (1074 - 149)) :
    m.value = Interchange.single.value (e * 2 ^ 23 + f) := by
  rw [Magnitude.value_eq, Interchange.value_eq, single_units fraction, units, ← single_least,
    Nat.shiftLeft_eq]
  generalize 1074 - 149 = k
  rw [Nat.cast_mul, Nat.cast_pow, Nat.cast_ofNat, mul_assoc]

/-- Every finite binary32 magnitude is a binary64 one. -/
theorem exists_magnitude (finite : e < 255) (fraction : f < 2 ^ 23) :
    ∃ m : Magnitude, m.units = singleUnits e f <<< (1074 - 149) := by
  unfold singleUnits
  split
  · exact Magnitude.exists_units (by omega) (by decide)
  · obtain ⟨m, units⟩ := Magnitude.exists_units (n := 2 ^ 23 + f) (e := e - 1 + (1074 - 149))
      (by omega) (by omega)
    rw [Nat.shiftLeft_add] at units
    rw [Nat.one_shiftLeft]
    exact ⟨m, units⟩

theorem ofSingle_finite (finite : e < 255) (fraction : f < 2 ^ 23) :
    ∃ m : Magnitude, ofSingle (single s e f) = .finite s m ∧
      m.units = singleUnits e f <<< (1074 - 149) ∧
      m.value = Interchange.single.value (e * 2 ^ 23 + f) := by
  obtain ⟨m, units⟩ := exists_magnitude finite fraction
  refine ⟨m, ?_, units, value_single fraction units⟩
  rw [ofSingle_single (Nat.lt_succ_of_lt finite) fraction, if_neg (Nat.ne_of_lt finite), ← units,
    ofUnits, Magnitude.nearest?_units, Option.elim_some]

/-- A subnormal magnitude is large enough for a leading one in the wider format. -/
theorem subnormal_code (some_fraction : 0 < f) (units : m.units = singleUnits 0 f <<< (1074 - 149)) :
    fractions ≤ m.code := by
  have first := double_block (e := 0) (.inl rfl) (show 2 ^ 52 ≤ 2 * 2 ^ 52 by decide)
  rw [Nat.zero_mul, Nat.zero_add, Nat.pow_zero, Nat.mul_one] at first
  have shifted {k : Nat} (wide : 52 ≤ k) : 1 * 2 ^ 52 ≤ f <<< k := by
    rw [Nat.shiftLeft_eq]
    exact Nat.mul_le_mul some_fraction (Nat.pow_le_pow_right (by decide) wide)
  have large : 2 ^ 52 ≤ m.units := by
    rw [units, singleUnits, if_pos rfl]
    exact shifted (by decide)
  rw [Magnitude.units_eq, ← first] at large
  exact Interchange.double.units_strictMono.le_iff_le.mp large

/-- A normal magnitude with its exponent and its fraction in the wider format. -/
theorem normal_code (normal : 0 < e) (fraction : f < 2 ^ 23)
    (units : m.units = singleUnits e f <<< (1074 - 149)) :
    m.code = (e + 1023 - 127) * 2 ^ 52 + f * 2 ^ (52 - 23) := by
  have block := double_block (e := e + 895) (n := 2 ^ 52 + f * 2 ^ 29) (.inr (by omega)) (by omega)
  have split : (e + 895) * 2 ^ 52 + (2 ^ 52 + f * 2 ^ 29) =
      (e + 1023 - 127) * 2 ^ 52 + f * 2 ^ (52 - 23) := by omega
  have leading : 2 ^ 52 + f * 2 ^ 29 = ((1 <<< 23) + f) <<< 29 := by
    rw [Nat.shiftLeft_eq, Nat.one_shiftLeft, Nat.add_mul, ← Nat.pow_add]
  have places : 29 + (e + 895) = e - 1 + (1074 - 149) := by omega
  rw [split, leading, ← Nat.shiftLeft_eq _ (e + 895), ← Nat.shiftLeft_add, places] at block
  rw [singleUnits, if_neg (Nat.ne_of_gt normal), ← Nat.shiftLeft_add, ← block,
    Magnitude.units_eq] at units
  exact Interchange.double.units_strictMono.injective units

/-! ## Kinds of patterns -/

theorem ofSingle_widens (bounded : pattern < 2 ^ 32) : Widens pattern (ofSingle pattern) := by
  obtain ⟨s, e, f, exponent, fraction, rfl⟩ := exists_fields bounded
  rcases Nat.lt_or_eq_of_le (Nat.le_of_lt_succ exponent) with finite | rfl
  · obtain ⟨m, read, units, value⟩ := ofSingle_finite (s := s) finite fraction
    rw [read]
    rcases Nat.eq_zero_or_pos e with rfl | normal
    · rcases Nat.eq_zero_or_pos f with rfl | some_fraction
      · obtain rfl : m = .zero := by
          apply Magnitude.value_inj
          rw [value, Magnitude.value_zero]
          exact Interchange.value_zero _
        exact .zero s
      · rw [Nat.zero_mul, Nat.zero_add] at value
        exact .subnormal s f m some_fraction fraction value (subnormal_code some_fraction units)
    · exact .normal s e f m normal finite fraction value (normal_code normal fraction units)
  · rw [ofSingle_single exponent fraction, if_pos rfl]
    rcases Nat.eq_zero_or_pos f with rfl | some_fraction
    · exact .infinite s
    · rw [if_neg (Nat.ne_of_gt some_fraction)]
      exact .nan s f some_fraction fraction

/-- A pattern has just one number. -/
theorem Widens.eq_ofSingle (widens : Widens pattern x) : x = ofSingle pattern := by
  -- of a finite pattern the sign and the value are enough
  have finite {s e f} {m : Magnitude} (finite : e < 255) (fraction : f < 2 ^ 23)
      (value : m.value = Interchange.single.value (e * 2 ^ 23 + f)) :
      Binary64.finite s m = ofSingle (single s e f) := by
    obtain ⟨m', read, _, value'⟩ := ofSingle_finite (s := s) finite fraction
    rw [read, Magnitude.value_inj (value.trans value'.symm)]
  cases widens with
  | nan s f some_fraction fraction =>
    rw [ofSingle_single (by decide) fraction, if_pos rfl, if_neg (Nat.ne_of_gt some_fraction)]
  | infinite s => rw [ofSingle_single (by decide) (by decide), if_pos rfl, if_pos rfl]
  | zero s =>
    apply finite (by decide) (by decide)
    exact Magnitude.value_zero.trans (Interchange.value_zero _).symm
  | subnormal s f m _ fraction value _ =>
    apply finite (by decide) fraction
    rwa [Nat.zero_mul, Nat.zero_add]
  | normal s e f m _ exponent fraction value _ => exact finite exponent fraction value

/-- A binary64 number with a binary32 magnitude is narrowed to just that one. -/
theorem narrows_finite_iff (value : m.value = Interchange.single.value code)
    (bounded : code < 255 * 2 ^ 23) :
    Narrows (.finite s m) pattern ↔ pattern = s.toNat * 2 ^ 31 + code := by
  constructor
  · intro narrows
    cases narrows with
    | finite s m other nearest =>
      rw [value, Interchange.nearest_value_iff] at nearest
      rw [nearest]
    | overflow s m other nearest large =>
      rw [value, Interchange.nearest_value_iff] at nearest
      omega
  · rintro rfl
    exact .finite s m code (value ▸ Interchange.single.nearest_self code) bounded

/-- Unless it is NaN, what was read is narrowed back to the pattern and to no other one. -/
theorem Widens.narrows_iff (widens : Widens code x) (number : x ≠ .nan) :
    Narrows x pattern ↔ pattern = code := by
  cases widens with
  | nan => exact absurd rfl number
  | infinite s =>
    constructor
    · intro narrows
      cases narrows
      rfl
    · rintro rfl
      exact .infinite s
  | zero s =>
    have value := Magnitude.value_zero.trans (Interchange.single.value_zero).symm
    rw [single, Nat.zero_mul, Nat.add_assoc]
    exact narrows_finite_iff value (by decide)
  | subnormal s f m _ fraction value _ =>
    rw [single, Nat.zero_mul, Nat.add_zero]
    exact narrows_finite_iff value (by omega)
  | normal s e f m _ exponent fraction value _ =>
    rw [single, Nat.add_assoc]
    exact narrows_finite_iff value (by omega)

/-- Two patterns that are read as the same number are the same. -/
theorem Widens.unique (first : Widens pattern x) (second : Widens code x) (number : x ≠ .nan) :
    pattern = code :=
  (second.narrows_iff number).mp ((first.narrows_iff number).mpr rfl)

/-- The number that a pattern stands for. It is the only one that means the same, and unless it is NaN
the pattern is the only one that it is narrowed to, and the only one that stands for it. -/
structure Widened (pattern : Nat) (x : Binary64) : Prop where
  widens : Widens pattern x
  only : ∀ y, Widens pattern y → y = x
  narrowed : x ≠ .nan → ∀ p, Narrows x p ↔ p = pattern
  apart : x ≠ .nan → ∀ p, Widens p x → p = pattern

theorem widened_iff (bounded : pattern < 2 ^ 32) : Widened pattern x ↔ x = ofSingle pattern := by
  constructor
  · exact fun widened => widened.widens.eq_ofSingle
  · rintro rfl
    have widens := ofSingle_widens bounded
    exact ⟨widens, fun y also => also.eq_ofSingle, fun number p => widens.narrows_iff number,
      fun number p also => also.unique widens number⟩

end MeterPolling.Binary64
