import MeterPolling.Proofs.Number
/-!
The exact values of numbers. What an operation gives is its exact result rounded once, which leaves
just one number: so two operations whose exact results are equal give the same number, and a result
that there is a number for is exact. On the side of the infinities and of the zeros it is said where
rounding leads to them.
-/
namespace MeterPolling

/-! ## Magnitudes -/

namespace Magnitude

variable {m m' : Magnitude} {n e : Nat}

def value (m : Magnitude) : ℚ := Interchange.double.value m.code

theorem value_eq (m : Magnitude) : m.value = m.units * Interchange.double.least := by
  rw [value, Interchange.value_eq, units_eq]

theorem value_nonneg (m : Magnitude) : 0 ≤ m.value := by
  rw [value_eq]
  exact mul_nonneg (Nat.cast_nonneg _) (le_of_lt Interchange.double.least_pos)

theorem value_zero : Magnitude.zero.value = 0 := Interchange.value_zero _

theorem value_inj (same : m.value = m'.value) : m = m' := by
  have code : m.code = m'.code := Interchange.double.value_strictMono.injective same
  cases m
  cases m'
  congr

/-- A number of that many bits has a magnitude, unless the exponent is one of the largest. -/
theorem exists_units (within : n ≤ 2 * 2 ^ 52) (small : e ≤ 2044) :
    ∃ m : Magnitude, m.units = n <<< e := by
  obtain ⟨code, bound, units⟩ := Interchange.double.exists_units e within
  have width : Interchange.double.width = 52 := rfl
  have bounded : code < Binary64.magnitudes := by
    rw [width] at bound
    unfold Binary64.magnitudes Binary64.fractions
    omega
  exact ⟨⟨code, bounded⟩, (units_eq _).trans (units.trans (Nat.shiftLeft_eq n e).symm)⟩

end Magnitude

namespace Binary64

/-! ## Rounding -/

/-- A magnitude rounded to a number of the given sign. Where the nearest magnitude would take too
large an exponent, the number is infinite. -/
inductive Rounds (negative : Bool) (exact : ℚ) : Binary64 → Prop where
  | finite (m : Magnitude) : Interchange.double.Nearest exact m.code →
      Rounds negative exact (.finite negative m)
  | infinite (code : Nat) : Interchange.double.Nearest exact code → magnitudes ≤ code →
      Rounds negative exact (.infinite negative)

variable {negative : Bool} {exact exact' : ℚ} {x y : Binary64} {n d : Nat} {m : Magnitude}

theorem Rounds.unique (first : Rounds negative exact x) (second : Rounds negative exact y) :
    x = y := by
  cases first with
  | finite m nearest =>
    cases second with
    | finite m' nearest' =>
      have code := nearest.unique nearest'
      cases m
      cases m'
      congr
    | infinite code nearest' large =>
      have bounded := m.bounded
      rw [nearest.unique nearest'] at bounded
      exact absurd bounded (Nat.not_lt.mpr large)
  | infinite code nearest large =>
    cases second with
    | finite m' nearest' =>
      have bounded := m'.bounded
      rw [nearest'.unique nearest] at bounded
      exact absurd bounded (Nat.not_lt.mpr large)
    | infinite code' nearest' large' => rfl

theorem Rounds.nonneg (rounds : Rounds false exact x) : zero ≤ x := by
  cases rounds with
  | finite m nearest => exact zero_le_finite m
  | infinite code nearest large => exact zero_le_infinite

/-- Rounding keeps the order. -/
theorem Rounds.mono (first : Rounds false exact x) (second : Rounds false exact' y)
    (le : exact ≤ exact') : x ≤ y := by
  apply (le_iff_position first.nonneg second.nonneg).mpr
  cases first with
  | finite m nearest =>
    cases second with
    | finite m' nearest' => exact nearest.mono nearest' le
    | infinite code nearest' large => exact Nat.le_of_lt m.bounded
  | infinite code nearest large =>
    cases second with
    | finite m' nearest' =>
      have order := nearest.mono nearest' le
      exact absurd m'.bounded (Nat.not_lt.mpr (Nat.le_trans large order))
    | infinite code' nearest' large' => exact Nat.le_refl _

/-- A magnitude that there is needs no rounding. -/
theorem Rounds.of_value (rounds : Rounds negative m.value x) : x = .finite negative m :=
  rounds.unique (.finite m (Interchange.double.nearest_self m.code))

theorem ofUnits_rounds (negative : Bool) (n : Nat) (positive : 0 < d) :
    Rounds negative (n / d * Interchange.double.least) (ofUnits negative n d) := by
  have nearest := Magnitude.nearestCode_nearest n positive
  unfold ofUnits Magnitude.nearest?
  simp only
  split
  · exact .finite _ nearest
  · rename_i large
    exact .infinite _ nearest (Nat.le_of_not_lt large)

/-- Powers of two in units of the least magnitude. -/
theorem pow_least (e : Nat) : (2 : ℚ) ^ (1074 + e) * Interchange.double.least = 2 ^ e := by
  have least : Interchange.double.least = 2 ^ (-(1074 : Nat) : ℤ) := rfl
  rw [least, pow_add]
  generalize 1074 = n
  rw [zpow_neg, zpow_natCast, mul_right_comm, mul_inv_cancel₀ (by positivity), one_mul]

theorem one_least : (one : ℚ) * Interchange.double.least = 1 := by
  have exact := pow_least 0
  rw [Nat.add_zero, pow_zero] at exact
  rw [one, Nat.one_shiftLeft]
  generalize 1074 = n at exact ⊢
  rwa [Nat.cast_pow, Nat.cast_ofNat]

/-- A whole number that there is a magnitude for. -/
theorem value_shift (units : m.units = n <<< 1074) : m.value = n := by
  have unit := one_least
  rw [one, Nat.one_shiftLeft] at unit
  rw [Magnitude.value_eq, units, Nat.shiftLeft_eq]
  generalize 1074 = k at unit ⊢
  rw [Nat.cast_mul, mul_assoc, unit, mul_one]

/-- A quotient is rounded once. -/
theorem ofQuotient_rounds (negative : Bool) (n : Nat) (positive : 0 < d) :
    Rounds negative (n / d) (ofQuotient negative n d) := by
  have rounds := ofUnits_rounds negative (n * one) positive
  have exact : ((n * one : Nat) : ℚ) / d * Interchange.double.least = n / d := by
    push_cast
    rw [mul_div_right_comm, mul_assoc, one_least, mul_one]
  rwa [exact] at rounds

/-! ## Where rounding leads to an infinity or to zero -/

/-- What stands at the first pattern past the finite ones. -/
theorem value_magnitudes : Interchange.double.value magnitudes = 2 ^ 1024 := by
  have block := Interchange.value_block (f := .double) (e := 2046) (r := 2 ^ 52) (.inr (by decide))
    (by decide)
  rw [Nat.cast_pow, Nat.cast_ofNat, ← mul_assoc, ← pow_add] at block
  exact block.trans (pow_least 1024)

/-- The largest magnitude. -/
theorem value_last : Interchange.double.value (magnitudes - 1) = 2 ^ 1024 - 2 ^ 971 := by
  have block := Interchange.value_block (f := .double) (e := 2045) (r := 2 ^ 53 - 1)
    (.inr (by decide)) (by decide)
  rw [Nat.cast_sub (by decide), Nat.cast_pow, Nat.cast_ofNat, Nat.cast_one, sub_mul, one_mul,
    ← mul_assoc, ← pow_add] at block
  have first := pow_least 1024
  have second := pow_least 971
  exact block.trans (congrArg₂ (· - ·) first second)

theorem value_one : Interchange.double.value 1 = Interchange.double.least := by
  rw [Interchange.value_eq]
  exact (congrArg (· * _) Nat.cast_one).trans (one_mul _)

/-- A number is infinite from the middle between the largest magnitude and the one that would follow
it. -/
theorem Rounds.infinite_iff (rounds : Rounds negative exact x) :
    x = .infinite negative ↔ (2 : ℚ) ^ 1024 - 2 ^ 970 ≤ exact := by
  have middle : Interchange.double.value (magnitudes - 1) +
      Interchange.double.value (magnitudes - 1 + 1) = 2 * ((2 : ℚ) ^ 1024 - 2 ^ 970) := by
    rw [Nat.sub_add_cancel (by decide), value_last, value_magnitudes, pow_succ (2 : ℚ) 970]
    generalize (2 : ℚ) ^ 1024 = top
    generalize (2 : ℚ) ^ 970 = half
    ring
  rw [← mul_le_mul_iff_of_pos_left (two_pos : (0 : ℚ) < 2), ← middle]
  cases rounds with
  | finite m nearest =>
    rw [← nearest.past_iff (by decide)]
    have bounded := m.bounded
    exact iff_of_false nofun (by omega)
  | infinite code nearest large =>
    rw [← nearest.past_iff (by decide)]
    have last : magnitudes - 1 < magnitudes := by decide
    exact iff_of_true rfl (Nat.lt_of_lt_of_le last large)

/-- A number is zero up to half of the least magnitude. -/
theorem Rounds.zero_iff (rounds : Rounds negative exact x) :
    x = .finite negative .zero ↔ exact ≤ (2 : ℚ) ^ (-1075 : ℤ) := by
  have middle : Interchange.double.value 0 + Interchange.double.value (0 + 1) =
      2 * (2 : ℚ) ^ (-1075 : ℤ) := by
    have least : Interchange.double.least = 2 ^ (-1075 + 1 : ℤ) := rfl
    rw [Interchange.value_zero, value_one, zero_add, least, zpow_add_one₀ two_ne_zero, mul_comm]
  rw [← mul_le_mul_iff_of_pos_left (two_pos : (0 : ℚ) < 2), ← middle]
  cases rounds with
  | finite m nearest =>
    rw [← nearest.upto_iff rfl, Nat.le_zero]
    constructor
    · intro same
      injection same with _ same
      rw [same]
      rfl
    · intro none
      cases m
      cases none
      rfl
  | infinite code nearest large =>
    rw [← nearest.upto_iff rfl]
    have some_magnitude : 0 < magnitudes := by decide
    exact iff_of_false nofun (by omega)

/-! ## Sums and differences -/

def signedValue (negative : Bool) (m : Magnitude) : ℚ := if negative then -m.value else m.value

def value? : Binary64 → Option ℚ
  | .finite negative m => some (signedValue negative m)
  | _ => none

/-- There is a number with this value. -/
def Representable (a : ℚ) : Prop := ∃ x : Binary64, x.value? = some a

section Sums

variable {a b : ℚ} {s t : Bool} {m m' : Magnitude}

theorem value_cases (value : x.value? = some a) : ∃ s m, x = .finite s m ∧ signedValue s m = a := by
  cases x with
  | nan => cases value
  | infinite s => cases value
  | finite s m => exact ⟨s, m, rfl, Option.some.inj value⟩

theorem signedValue_units (s : Bool) (m : Magnitude) :
    signedValue s m = signedUnits s m * Interchange.double.least := by
  have value := m.value_eq
  cases s with
  | false => exact value
  | true =>
    change -m.value = (-(m.units : Int) : Int) * _
    rw [value, Int.cast_neg, Int.cast_natCast, neg_mul]

theorem abs_signedValue (s : Bool) (m : Magnitude) : |signedValue s m| = m.value := by
  have nonneg := m.value_nonneg
  cases s with
  | false => exact abs_of_nonneg nonneg
  | true => exact (abs_neg _).trans (abs_of_nonneg nonneg)

theorem signedValue_lt_iff :
    signedValue s m < signedValue t m' ↔ signedUnits s m < signedUnits t m' := by
  rw [signedValue_units, signedValue_units, mul_lt_mul_iff_of_pos_right Interchange.double.least_pos,
    Int.cast_lt]

theorem less_iff (left : x.value? = some a) (right : y.value? = some b) :
    x.less y = true ↔ a < b := by
  obtain ⟨s, m, rfl, rfl⟩ := value_cases left
  obtain ⟨t, m', rfl, rfl⟩ := value_cases right
  rw [signedValue_lt_iff]
  exact decide_eq_true_iff

/-- What is neither before a finite number nor after it has the same value. -/
theorem value_of_le_le (value : x.value? = some a) (le : y ≤ x) (ge : x ≤ y) :
    y.value? = some a := by
  obtain ⟨s, m, rfl, same⟩ := value_cases value
  cases y with
  | nan => cases le.1
  | infinite t =>
    have above : (!t) = false := le.2.2
    have below : t = false := ge.2.2
    rw [below] at above
    cases above
  | finite t m' =>
    have above := (less_iff value (y := .finite t m') rfl).not.mp (Bool.not_eq_true _ ▸ le.2.2)
    have below := (less_iff (x := .finite t m') rfl value).not.mp (Bool.not_eq_true _ ▸ ge.2.2)
    rw [value?, le_antisymm (not_lt.mp above) (not_lt.mp below)]

theorem neg_value (value : x.value? = some a) : x.neg.value? = some (-a) := by
  obtain ⟨s, m, rfl, rfl⟩ := value_cases value
  cases s with
  | false => rfl
  | true => exact congrArg some (neg_neg _).symm

/-- What is rounded to a sum of units is the number of that value, where there is one. -/
theorem ofUnits_value {sum : Int} (exact : Representable (sum * Interchange.double.least)) :
    (ofUnits (sum < 0) sum.natAbs 1).value? = some (sum * Interchange.double.least) := by
  obtain ⟨z, value⟩ := exact
  obtain ⟨u, m, -, same⟩ := value_cases value
  rw [signedValue_units] at same
  have units : signedUnits u m = sum := by
    exact_mod_cast mul_right_cancel₀ (ne_of_gt Interchange.double.least_pos) same
  have size : m.units = sum.natAbs := by
    cases u with
    | false => exact congrArg Int.natAbs units
    | true => exact (Int.natAbs_neg _).symm.trans (congrArg Int.natAbs units)
  have rounds := ofUnits_rounds (sum < 0) sum.natAbs Nat.one_pos
  rw [Nat.cast_one, div_one, ← size, ← Magnitude.value_eq] at rounds
  rw [← size, rounds.of_value, value?, signedValue_units]
  congr 3
  rw [signedUnits, size]
  by_cases negative : sum < 0
  · rw [decide_eq_true negative, if_pos rfl]
    omega
  · rw [decide_eq_false negative, if_neg Bool.false_ne_true]
    omega

/-- A sum that there is a number for is exact. -/
theorem add_value (left : x.value? = some a) (right : y.value? = some b)
    (exact : Representable (a + b)) : (x + y).value? = some (a + b) := by
  obtain ⟨s, m, rfl, rfl⟩ := value_cases left
  obtain ⟨t, m', rfl, rfl⟩ := value_cases right
  have total : signedValue s m + signedValue t m' =
      (signedUnits s m + signedUnits t m' : Int) * Interchange.double.least := by
    rw [signedValue_units, signedValue_units, ← add_mul, Int.cast_add]
  rw [total] at exact ⊢
  change (Binary64.add _ _).value? = _
  unfold Binary64.add
  simp only
  split
  · rename_i none
    rw [none, Int.cast_zero, zero_mul, value?, signedValue_units]
    have least : signedUnits (s && t) .zero = 0 := by cases s && t <;> rfl
    rw [least, Int.cast_zero, zero_mul]
  · exact ofUnits_value exact

theorem sub_value (left : x.value? = some a) (right : y.value? = some b)
    (exact : Representable (a - b)) : (x - y).value? = some (a - b) := by
  rw [sub_eq_add_neg] at exact ⊢
  exact add_value left (neg_value right) exact

end Sums

end Binary64

/-! ## Numbers -/

namespace Number

def value? : Number → Option ℚ
  | .integer k => some k
  | .real x => x.value?

variable {x y : Number} {a b : ℚ}

/-- The units of a number on the scale where it is compared. -/
theorem value_units (k : Int) : (k : ℚ) = (k * Binary64.one : Int) * Interchange.double.least := by
  rw [Int.cast_mul, Int.cast_natCast, mul_assoc, Binary64.one_least, mul_one]

inductive Scaled : Number → Int → Prop where
  | integer (k : Int) : Scaled (.integer k) (k * Binary64.one)
  | real (s : Bool) (m : Magnitude) : Scaled (.real (.finite s m)) (Binary64.signedUnits s m)

theorem exists_scaled (value : x.value? = some a) :
    ∃ k : Int, Scaled x k ∧ a = k * Interchange.double.least := by
  cases x with
  | integer k =>
    cases value
    exact ⟨_, .integer k, value_units k⟩
  | real x =>
    obtain ⟨s, m, rfl, rfl⟩ := Binary64.value_cases value
    exact ⟨_, .real s m, Binary64.signedValue_units s m⟩

theorem Scaled.less_iff {j k : Int} (first : Scaled x j) (second : Scaled y k) :
    x.less y = true ↔ j < k := by
  cases first <;> cases second <;> exact decide_eq_true_iff

/-- Numbers are compared by their values. -/
theorem less_iff (left : x.value? = some a) (right : y.value? = some b) :
    x.less y = true ↔ a < b := by
  obtain ⟨j, first, rfl⟩ := exists_scaled left
  obtain ⟨k, second, rfl⟩ := exists_scaled right
  rw [first.less_iff second, mul_lt_mul_iff_of_pos_right Interchange.double.least_pos, Int.cast_lt]

theorem isZero_iff (value : x.value? = some a) : x.isZero = true ↔ a = 0 := by
  cases x with
  | integer k =>
    cases value
    rw [Int.cast_eq_zero]
    exact beq_iff_eq
  | real x =>
    obtain ⟨s, m, rfl, rfl⟩ := Binary64.value_cases value
    have code : m.code = 0 ↔ m = .zero := by
      constructor
      · intro none
        cases m
        cases none
        rfl
      · rintro rfl
        rfl
    have zero : Binary64.signedValue s m = 0 ↔ m.value = Magnitude.zero.value := by
      rw [← abs_eq_zero, Binary64.abs_signedValue, Magnitude.value_zero]
    rw [zero]
    exact (beq_iff_eq.trans code).trans ⟨congrArg _, Magnitude.value_inj⟩

/-- A number whose value a binary64 number has is turned into that one. -/
theorem toBinary64?_value (value : x.value? = some a) (exact : Binary64.Representable a) :
    ∃ y, x.toBinary64? = some y ∧ y.value? = some a := by
  cases x with
  | real y => exact ⟨y, rfl, value⟩
  | integer k =>
    cases value
    rw [value_units k] at exact ⊢
    have value := Binary64.ofUnits_value exact
    have sign : decide (k * (Binary64.one : Int) < 0) = decide (k < 0) := by
      have scale : k * (Binary64.one : Int) < 0 * Binary64.one ↔ k < 0 :=
        Int.mul_lt_mul_right (by decide)
      rw [Int.zero_mul] at scale
      exact decide_eq_decide.mpr scale
    rw [sign, Int.natAbs_mul, Int.natAbs_natCast, Binary64.ofUnits] at value
    change ∃ y, (Magnitude.nearest? (k.natAbs * Binary64.one) 1).map _ = some y ∧ _
    cases nearest : Magnitude.nearest? (k.natAbs * Binary64.one) 1 with
    | none =>
      rw [nearest] at value
      cases value
    | some m =>
      rw [nearest] at value
      exact ⟨_, rfl, value⟩

end Number

end MeterPolling
