import Mathlib.Algebra.Order.Field.Basic
import Mathlib.Algebra.Order.Ring.Rat
import Mathlib.Order.Monotone.Basic
import Mathlib.Tactic.FieldSimp
import Mathlib.Tactic.Linarith
import Mathlib.Tactic.Positivity
import Mathlib.Tactic.Ring
import MeterPolling.Binary64
/-!
Rounding to a binary format. Patterns stand for magnitudes in ascending order, as the interchange
formats have it, and rounding is said of the magnitudes alone: the nearest one, and of two equally
near the one with an even pattern. There is at most one such pattern, it does not fall when the exact
value rises, and it is the pattern that is computed from a quotient of whole numbers. How large an
exponent may be is left to each format.
-/
namespace MeterPolling

/-- A binary format: how many bits the fraction has, and what is taken from the exponent. -/
structure Interchange where
  width : Nat
  bias : Nat
  width_pos : 0 < width := by decide

namespace Interchange

def single : Interchange := ⟨23, 127, by decide⟩

def double : Interchange := ⟨52, 1023, by decide⟩

/-- The magnitude that a pattern stands for. Above the fraction stands the exponent; where it is zero,
the number has no leading one. -/
def value (f : Interchange) (code : Nat) : ℚ :=
  let exponent := code / 2 ^ f.width
  let fraction : ℚ := (code % 2 ^ f.width : Nat) / 2 ^ f.width
  if exponent = 0 then fraction * 2 ^ (1 - f.bias : ℤ)
  else (1 + fraction) * 2 ^ (exponent - f.bias : ℤ)

/-- The pattern whose magnitude is nearest to an exact one. Of two that are equally near it is the
even one. -/
structure Nearest (f : Interchange) (exact : ℚ) (code : Nat) : Prop where
  near : ∀ other, |f.value code - exact| ≤ |f.value other - exact|
  even : ∀ other, other ≠ code → |f.value other - exact| = |f.value code - exact| → code % 2 = 0

variable {f : Interchange} {code other n d e r : Nat} {exact exact' : ℚ}

/-! ## Magnitudes in units of the least one -/

def least (f : Interchange) : ℚ := 2 ^ (1 - f.bias - f.width : ℤ)

theorem least_pos (f : Interchange) : 0 < f.least := by
  exact zpow_pos (by norm_num) _

def units (f : Interchange) (code : Nat) : Nat :=
  if code < 2 ^ f.width then code
  else (2 ^ f.width + code % 2 ^ f.width) * 2 ^ (code / 2 ^ f.width - 1)

theorem value_eq (f : Interchange) (code : Nat) : f.value code = f.units code * f.least := by
  have nonzero : (2 : ℚ) ≠ 0 := by norm_num
  have scale : (2 : ℚ) ^ (1 - f.bias : ℤ) = 2 ^ f.width * f.least := by
    rw [least, zpow_sub₀ nonzero _ (f.width : ℤ), zpow_natCast]
    field_simp
  unfold value units
  simp only
  by_cases small : code < 2 ^ f.width
  · rw [if_pos (Nat.div_eq_of_lt small), if_pos small, Nat.mod_eq_of_lt small, scale]
    field_simp
  · have large : 2 ^ f.width ≤ code := Nat.le_of_not_lt small
    have later : 0 < code / 2 ^ f.width := Nat.div_pos large (Nat.two_pow_pos _)
    obtain ⟨e, exponent⟩ := Nat.exists_eq_succ_of_ne_zero (Nat.ne_of_gt later)
    have power : (2 : ℚ) ^ ((e + 1 : Nat) - f.bias : ℤ) = 2 ^ e * (2 ^ f.width * f.least) := by
      rw [← scale, ← zpow_natCast 2 e, ← zpow_add₀ nonzero]
      congr 1
      push_cast
      ring
    rw [if_neg (Nat.ne_of_gt later), if_neg small, exponent, Nat.succ_eq_add_one, power,
      Nat.add_sub_cancel]
    push_cast
    field_simp

/-- A pattern in the units of its exponent. The next exponent begins where the fraction is full. -/
theorem units_block (normal : e = 0 ∨ 2 ^ f.width ≤ r) (within : r ≤ 2 * 2 ^ f.width) :
    f.units (e * 2 ^ f.width + r) = r * 2 ^ e := by
  have positive : 0 < 2 ^ f.width := Nat.two_pow_pos _
  unfold units
  generalize 2 ^ f.width = fractions at normal within positive ⊢
  by_cases small : r < fractions
  · obtain rfl : e = 0 := normal.resolve_right (Nat.not_le.mpr small)
    rw [Nat.zero_mul, Nat.zero_add, if_pos small, Nat.pow_zero, Nat.mul_one]
  have large : fractions ≤ r := Nat.le_of_not_lt small
  have above : ¬ e * fractions + r < fractions := by omega
  rw [if_neg above]
  rcases Nat.lt_or_eq_of_le within with inside | full
  · have split : e * fractions + r = (e + 1) * fractions + (r - fractions) := by
      rw [Nat.add_mul]
      omega
    have rest : r - fractions < fractions := by omega
    rw [split, Nat.mul_add_mod_self_right, Nat.mod_eq_of_lt rest, Nat.add_sub_cancel' large,
      Nat.add_comm, Nat.add_mul_div_right _ _ positive, Nat.div_eq_of_lt rest, Nat.zero_add,
      Nat.add_sub_cancel]
  · have split : e * fractions + r = (e + 2) * fractions := by
      rw [full, Nat.add_mul]
    rw [split, Nat.mul_mod_left, Nat.mul_div_cancel _ positive, full, Nat.add_zero,
      Nat.add_sub_assoc (by decide), Nat.pow_succ]
    ring

/-- Every pattern is one of some exponent. -/
theorem exists_block (f : Interchange) (code : Nat) :
    ∃ e r, code = e * 2 ^ f.width + r ∧ (e = 0 ∨ 2 ^ f.width ≤ r) ∧ r < 2 * 2 ^ f.width := by
  have positive : 0 < 2 ^ f.width := Nat.two_pow_pos _
  have rest := Nat.mod_lt code positive
  have parts := Nat.div_add_mod' code (2 ^ f.width)
  cases exponent : code / 2 ^ f.width with
  | zero =>
    rw [exponent] at parts
    exact ⟨0, code, by omega, .inl rfl, by omega⟩
  | succ e =>
    rw [exponent, Nat.add_mul] at parts
    exact ⟨e, 2 ^ f.width + code % 2 ^ f.width, by omega, .inr (Nat.le_add_right _ _), by omega⟩

/-- With so many bits there is a pattern for any exponent, if only a smaller exponent may be taken for
one that lacks its leading one. -/
theorem exists_units (f : Interchange) (e : Nat) (within : n ≤ 2 * 2 ^ f.width) :
    ∃ code, code ≤ e * 2 ^ f.width + n ∧ f.units code = n * 2 ^ e := by
  induction e generalizing n with
  | zero =>
    have units := units_block (.inl rfl) within
    rw [Nat.zero_mul, Nat.zero_add] at units
    exact ⟨n, Nat.le_add_left n _, units⟩
  | succ e ih =>
    by_cases large : 2 ^ f.width ≤ n
    · exact ⟨_, Nat.le_refl _, units_block (.inr large) within⟩
    · obtain ⟨code, bound, units⟩ := ih (show 2 * n ≤ 2 * 2 ^ f.width by omega)
      refine ⟨code, ?_, ?_⟩
      · rw [Nat.succ_mul]
        omega
      · rw [units, Nat.pow_succ', Nat.mul_left_comm, Nat.mul_assoc]

theorem units_strictMono (f : Interchange) : StrictMono f.units := by
  apply strictMono_nat_of_lt_succ
  intro code
  obtain ⟨e, r, rfl, normal, within⟩ := f.exists_block code
  have later : e = 0 ∨ 2 ^ f.width ≤ r + 1 := normal.imp_right Nat.le_succ_of_le
  rw [Nat.add_assoc, units_block normal (Nat.le_of_lt within), units_block later within]
  exact Nat.mul_lt_mul_of_pos_right (Nat.lt_succ_self r) (Nat.two_pow_pos e)

theorem value_strictMono (f : Interchange) : StrictMono f.value := by
  intro code other less
  rw [value_eq, value_eq]
  have fewer : (f.units code : ℚ) < f.units other := by exact_mod_cast f.units_strictMono less
  exact mul_lt_mul_of_pos_right fewer f.least_pos

theorem value_zero (f : Interchange) : f.value 0 = 0 := by
  rw [value_eq, units, if_pos (Nat.two_pow_pos _), Nat.cast_zero, zero_mul]

/-! ## The nearest magnitude -/

section Distance

variable {low high : ℚ}

/-- Of two numbers the upper one is at least as near where the middle between them is not passed. -/
theorem upper_near_iff (less : low < high) :
    |high - exact| ≤ |low - exact| ↔ low + high ≤ 2 * exact := by
  have parts : (low - exact) ^ 2 - (high - exact) ^ 2 = (high - low) * (2 * exact - (low + high)) := by
    ring
  rw [← sq_le_sq, ← sub_nonneg, parts, mul_nonneg_iff_of_pos_left (sub_pos.mpr less), sub_nonneg]

theorem lower_near_iff (less : low < high) :
    |low - exact| ≤ |high - exact| ↔ 2 * exact ≤ low + high := by
  have parts : (high - exact) ^ 2 - (low - exact) ^ 2 = (high - low) * (low + high - 2 * exact) := by
    ring
  rw [← sq_le_sq, ← sub_nonneg, parts, mul_nonneg_iff_of_pos_left (sub_pos.mpr less), sub_nonneg]

end Distance

/-- A magnitude is nearest where its neighbours are no nearer, and no nearer than an even one. -/
theorem nearest_of_between
    (below : ∀ c, c + 1 = code → f.value c + f.value code ≤ 2 * exact ∧
      (f.value c + f.value code = 2 * exact → code % 2 = 0))
    (above : 2 * exact ≤ f.value code + f.value (code + 1) ∧
      (f.value code + f.value (code + 1) = 2 * exact → code % 2 = 0)) :
    f.Nearest exact code := by
  have lower : ∀ other < code, f.value other + f.value code ≤ 2 * exact ∧
      (f.value other + f.value code = 2 * exact → code % 2 = 0) := by
    intro other less
    obtain ⟨c, rfl⟩ := Nat.exists_eq_succ_of_ne_zero (Nat.ne_of_gt (Nat.zero_lt_of_lt less))
    obtain ⟨middle, tie⟩ := below c rfl
    have order := f.value_strictMono.monotone (Nat.le_of_lt_succ less)
    exact ⟨by linarith, fun same => tie (by linarith)⟩
  have higher : ∀ other > code, 2 * exact ≤ f.value code + f.value other ∧
      (f.value code + f.value other = 2 * exact → code % 2 = 0) := by
    intro other less
    obtain ⟨middle, tie⟩ := above
    have order := f.value_strictMono.monotone (Nat.succ_le_of_lt less)
    rw [Nat.succ_eq_add_one] at order
    exact ⟨by linarith, fun same => tie (by linarith)⟩
  constructor
  · intro other
    rcases Nat.lt_trichotomy other code with less | rfl | less
    · exact (upper_near_iff (f.value_strictMono less)).mpr (lower other less).1
    · exact le_refl _
    · exact (lower_near_iff (f.value_strictMono less)).mpr (higher other less).1
  · intro other different same
    rcases Nat.lt_or_gt_of_ne different with less | less
    · obtain ⟨middle, tie⟩ := lower other less
      have reached := (lower_near_iff (f.value_strictMono less)).mp (le_of_eq same)
      exact tie (le_antisymm middle reached)
    · obtain ⟨middle, tie⟩ := higher other less
      have reached := (upper_near_iff (f.value_strictMono less)).mp (le_of_eq same)
      exact tie (le_antisymm reached middle)

/-- A magnitude is nearest to itself. -/
theorem nearest_self (f : Interchange) (code : Nat) : f.Nearest (f.value code) code := by
  apply nearest_of_between
  · intro c next
    have step := f.value_strictMono (Nat.lt_of_succ_le (Nat.le_of_eq next))
    exact ⟨by linarith, fun tie => absurd tie (by linarith)⟩
  · have step := f.value_strictMono (Nat.lt_succ_self code)
    exact ⟨by linarith, fun tie => absurd tie (by linarith)⟩

/-- Rounding keeps the order of exact values. -/
theorem Nearest.mono (first : f.Nearest exact code) (second : f.Nearest exact' other)
    (le : exact ≤ exact') : code ≤ other := by
  refine Nat.le_of_not_lt fun less => ?_
  have order := f.value_strictMono less
  have least := (upper_near_iff order).mp (first.near other)
  have most := (lower_near_iff order).mp (second.near code)
  obtain rfl : exact = exact' := by linarith
  -- the exact value is the middle, so that both patterns are even and another one is nearer
  have middle : |f.value other - exact| = |f.value code - exact| :=
    le_antisymm ((lower_near_iff order).mpr most) ((upper_near_iff order).mpr least)
  have even := first.even other (Nat.ne_of_lt less) middle
  have even' := second.even code (Nat.ne_of_gt less) middle.symm
  have between : other < other + 1 ∧ other + 1 < code := by omega
  have step := f.value_strictMono between.1
  have farther := (upper_near_iff (f.value_strictMono between.2)).mp (first.near (other + 1))
  linarith

theorem Nearest.unique (first : f.Nearest exact code) (second : f.Nearest exact other) :
    code = other :=
  Nat.le_antisymm (first.mono second (le_refl _)) (second.mono first (le_refl _))

theorem nearest_value_iff : f.Nearest (f.value code) other ↔ other = code := by
  constructor
  · exact fun nearest => nearest.unique (f.nearest_self code)
  · rintro rfl
    exact f.nearest_self other

/-- The middle between two neighbours belongs to the upper one where the lower one is odd. -/
theorem Nearest.past_iff (nearest : f.Nearest exact code) {c : Nat} (odd : c % 2 = 1) :
    c < code ↔ f.value c + f.value (c + 1) ≤ 2 * exact := by
  have monotone := f.value_strictMono.monotone
  constructor
  · intro less
    have near := (upper_near_iff (f.value_strictMono less)).mp (nearest.near c)
    have next := monotone (Nat.succ_le_of_lt less)
    rw [Nat.succ_eq_add_one] at next
    linarith
  · intro middle
    refine Nat.lt_of_not_le fun le => ?_
    have less := Nat.lt_succ_of_le le
    have near := (lower_near_iff (f.value_strictMono less)).mp (nearest.near (c + 1))
    have below := monotone le
    have tie : |f.value (c + 1) - exact| = |f.value code - exact| :=
      le_antisymm ((upper_near_iff (f.value_strictMono less)).mpr (by linarith)) (nearest.near _)
    have even := nearest.even (c + 1) (Nat.ne_of_gt less) tie
    have same : code = c := f.value_strictMono.injective (by linarith)
    omega

/-- The middle between two neighbours belongs to the lower one where that one is even. -/
theorem Nearest.upto_iff (nearest : f.Nearest exact code) {c : Nat} (even : c % 2 = 0) :
    code ≤ c ↔ 2 * exact ≤ f.value c + f.value (c + 1) := by
  have monotone := f.value_strictMono.monotone
  constructor
  · intro le
    have near := (lower_near_iff (f.value_strictMono (Nat.lt_succ_of_le le))).mp
      (nearest.near (c + 1))
    have below := monotone le
    linarith
  · intro middle
    refine Nat.le_of_not_lt fun less => ?_
    have near := (upper_near_iff (f.value_strictMono less)).mp (nearest.near c)
    have next := monotone (Nat.succ_le_of_lt less)
    rw [Nat.succ_eq_add_one] at next
    have tie : |f.value c - exact| = |f.value code - exact| :=
      le_antisymm ((lower_near_iff (f.value_strictMono less)).mpr (by linarith)) (nearest.near _)
    have parity := nearest.even c (Nat.ne_of_lt less) tie
    have same : code = c + 1 := f.value_strictMono.injective (by linarith)
    omega

/-! ## The rounded quotient -/

/-- The exponent for a quotient with this whole part. -/
def block (f : Interchange) (whole : Nat) : Nat := whole.log2 - f.width

theorem lt_block (f : Interchange) (n : Nat) : n < 2 * 2 ^ f.width * 2 ^ f.block n := by
  have log : n < 2 ^ (n.log2 + 1) := Nat.lt_log2_self
  have bound : n.log2 + 1 ≤ f.width + 1 + f.block n := by
    unfold block
    omega
  calc n < 2 ^ (n.log2 + 1) := log
    _ ≤ 2 ^ (f.width + 1 + f.block n) := Nat.pow_le_pow_right (by decide) bound
    _ = 2 * 2 ^ f.width * 2 ^ f.block n := by rw [Nat.pow_add, Nat.pow_succ']

theorem block_le (later : f.block n ≠ 0) : 2 ^ f.width * 2 ^ f.block n ≤ n := by
  have log : n.log2 = f.width + f.block n := by
    unfold block at later ⊢
    omega
  have nonzero : n ≠ 0 := by
    rintro rfl
    simp [block] at later
  calc 2 ^ f.width * 2 ^ f.block n = 2 ^ n.log2 := by rw [← Nat.pow_add, log]
    _ ≤ n := Nat.log2_self_le nonzero

/-- The pattern for a quotient in units of the least magnitude. -/
def nearestCode (f : Interchange) (n d : Nat) : Nat :=
  f.block (n / d) * 2 ^ f.width + roundedQuotient n (d * 2 ^ f.block (n / d))

/-- A quotient is rounded down when at most half is left of it and up when at least half is, to the
even side in the middle. -/
inductive Settles (n d : Nat) : Nat → Prop where
  | down : 2 * (n % d) ≤ d → (2 * (n % d) = d → n / d % 2 = 0) → Settles n d (n / d)
  | up : d ≤ 2 * (n % d) → (2 * (n % d) = d → n / d % 2 = 1) → Settles n d (n / d + 1)

theorem roundedQuotient_settles (n d : Nat) : Settles n d (roundedQuotient n d) := by
  unfold roundedQuotient
  simp only [Bool.or_eq_true, decide_eq_true_eq, Bool.and_eq_true, beq_iff_eq]
  split
  · exact .down (by omega) (by omega)
  · exact .up (by omega) (by omega)

theorem value_block (normal : e = 0 ∨ 2 ^ f.width ≤ r) (within : r ≤ 2 * 2 ^ f.width) :
    f.value (e * 2 ^ f.width + r) = r * (2 ^ e * f.least) := by
  rw [value_eq, units_block normal within]
  push_cast
  ring

/-- A pattern is even where its fraction is. -/
theorem parity_block (f : Interchange) (e r : Nat) : (e * 2 ^ f.width + r) % 2 = r % 2 := by
  obtain ⟨w, width⟩ := Nat.exists_eq_succ_of_ne_zero (Nat.ne_of_gt f.width_pos)
  rw [width, Nat.pow_succ, ← Nat.mul_assoc]
  omega

/-- A quotient in the units of the exponent that is chosen for it. -/
theorem block_bounds (f : Interchange) (n d : Nat) :
    (f.block (n / d) = 0 ∨ 2 ^ f.width ≤ n / (d * 2 ^ f.block (n / d))) ∧
      n / (d * 2 ^ f.block (n / d)) < 2 * 2 ^ f.width := by
  rw [← Nat.div_div_eq_div_mul]
  constructor
  · by_cases first : f.block (n / d) = 0
    · exact .inl first
    · exact .inr ((Nat.le_div_iff_mul_le (Nat.two_pow_pos _)).mpr (block_le first))
  · exact (Nat.div_lt_iff_lt_mul (Nat.two_pow_pos _)).mpr (f.lt_block (n / d))

/-! What lies below or above the middle of two multiples of a unit is told by whole numbers. -/

section Middle

variable {unit : ℚ} {D a b : Nat}

theorem middle_le_iff (unit_pos : 0 < unit) (positive : 0 < D) :
    a * unit + b * unit ≤ 2 * (n / D * unit) ↔ D * a + D * b ≤ 2 * n := by
  have divisor : (0 : ℚ) < D := Nat.cast_pos.mpr positive
  rw [← add_mul, ← mul_assoc, mul_le_mul_iff_of_pos_right unit_pos, mul_div_assoc',
    le_div_iff₀ divisor, mul_comm, ← Nat.mul_add]
  exact_mod_cast Iff.rfl

theorem le_middle_iff (unit_pos : 0 < unit) (positive : 0 < D) :
    2 * (n / D * unit) ≤ a * unit + b * unit ↔ 2 * n ≤ D * a + D * b := by
  have divisor : (0 : ℚ) < D := Nat.cast_pos.mpr positive
  rw [← add_mul, ← mul_assoc, mul_le_mul_iff_of_pos_right unit_pos, mul_div_assoc',
    div_le_iff₀ divisor, ← Nat.mul_add, mul_comm D]
  exact_mod_cast Iff.rfl

end Middle

/-- In the units of a block, what a quotient settles at is the nearest pattern. -/
theorem settles_nearest {D : Nat} (positive : 0 < D) (settles : Settles n D r)
    (normal : e = 0 ∨ 2 ^ f.width ≤ n / D) (within : n / D < 2 * 2 ^ f.width) :
    f.Nearest (n / D * (2 ^ e * f.least)) (e * 2 ^ f.width + r) := by
  have unit_pos : 0 < 2 ^ e * f.least := mul_pos (pow_pos (by norm_num) e) f.least_pos
  have here := value_block normal (Nat.le_of_lt within)
  have after := value_block (normal.imp_right Nat.le_succ_of_le) within
  generalize 2 ^ e * f.least = unit at unit_pos here after ⊢
  have parts := Nat.div_add_mod n D
  have rest := Nat.mod_lt n positive
  have next : D * (n / D).succ = D * (n / D) + D := Nat.mul_succ ..
  cases settles with
  | down half tie =>
    apply nearest_of_between
    · intro c before
      have less := f.value_strictMono (Nat.lt_of_succ_le (Nat.le_of_eq before))
      have reached := (middle_le_iff unit_pos positive).mpr
        (show D * (n / D) + D * (n / D) ≤ 2 * n by omega)
      rw [← here] at reached
      exact ⟨by linarith, fun same => absurd same (by linarith)⟩
    · rw [Nat.add_assoc, here, after]
      refine ⟨(le_middle_iff unit_pos positive).mpr (by omega), fun same => ?_⟩
      have least := (middle_le_iff unit_pos positive).mp (le_of_eq same)
      rw [parity_block]
      exact tie (by omega)
  | up half tie =>
    apply nearest_of_between
    · intro c before
      obtain rfl : c = e * 2 ^ f.width + n / D := by omega
      rw [here, after]
      refine ⟨(middle_le_iff unit_pos positive).mpr (by omega), fun same => ?_⟩
      have most := (le_middle_iff unit_pos positive).mp (le_of_eq same.symm)
      have odd := tie (by omega)
      rw [parity_block]
      omega
    · have less := f.value_strictMono (Nat.lt_succ_self (e * 2 ^ f.width + (n / D + 1)))
      have passed := (le_middle_iff unit_pos positive).mpr
        (show 2 * n ≤ D * (n / D).succ + D * (n / D).succ by omega)
      rw [← after] at passed
      rw [Nat.succ_eq_add_one] at less
      exact ⟨by linarith, fun same => absurd same (by linarith)⟩

/-- The computed pattern is the nearest one. -/
theorem nearestCode_nearest (f : Interchange) (n : Nat) (positive : 0 < d) :
    f.Nearest (n / d * f.least) (f.nearestCode n d) := by
  obtain ⟨normal, within⟩ := f.block_bounds n d
  unfold nearestCode
  generalize f.block (n / d) = e at normal within ⊢
  have exact_eq : n / d * f.least = n / (d * 2 ^ e : Nat) * (2 ^ e * f.least) := by
    have nonzero : (d : ℚ) ≠ 0 := Nat.cast_ne_zero.mpr (Nat.ne_of_gt positive)
    push_cast
    field_simp
  rw [exact_eq]
  exact settles_nearest (Nat.mul_pos positive (Nat.two_pow_pos e)) (roundedQuotient_settles n _)
    normal within

end Interchange

end MeterPolling
