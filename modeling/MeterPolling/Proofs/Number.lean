import MeterPolling.Number
import MeterPolling.Proofs.Binary64
/-!
Numbers above zero. What is not at most zero is above it, or else it is NaN, which is neither. A
number above zero stays above it as a binary64 number, where there is one for it. Nothing passes
between a time and itself, and a length that nothing is taken from stays as it is. Numbers that are
equal to the same number are equal.
-/
namespace MeterPolling

namespace Magnitude

variable {m : Magnitude}

theorem nearest?_units (m : Magnitude) : nearest? m.units 1 = some m := by
  have bounded : nearestCode m.units 1 < Binary64.magnitudes := by
    rw [nearestCode_units]
    exact m.bounded
  obtain ⟨code, _⟩ := m
  rw [nearest_some bounded]
  exact congrArg some (Magnitude.mk.injEq .. ▸ nearestCode_units _)

theorem units_pos : 0 < m.units ↔ 0 < m.code := by
  have least : Magnitude.zero.units = 0 := rfl
  have none : Magnitude.zero.code = 0 := rfl
  have same := @units_le_iff m .zero
  rw [least, none] at same
  omega

end Magnitude

namespace Binary64

variable {x : Binary64}

theorem sub_eq (x y : Binary64) : x - y = x.add y.neg := rfl

theorem nan_sub (x : Binary64) : nan - x = nan := rfl

theorem not_less_nan (x : Binary64) : x.less nan = false := by
  cases x <;> rfl

theorem cases_positive (positive : zero.less x = true) :
    x = infinite false ∨ ∃ m, x = finite false m ∧ 0 < m.units := by
  cases x with
  | nan => cases positive
  | infinite s =>
    cases s with
    | true => cases positive
    | false => exact .inl rfl
  | finite s m =>
    have above : signedUnits false .zero < signedUnits s m := of_decide_eq_true positive
    have least : signedUnits false .zero = 0 := rfl
    cases s with
    | true =>
      change _ < -(m.units : Int) at above
      omega
    | false =>
      change _ < (m.units : Int) at above
      exact .inr ⟨m, rfl, by omega⟩

theorem sub_self (finite : x.units?.isSome) : x - x = zero := by
  cases x with
  | nan => cases finite
  | infinite s => cases finite
  | finite s m =>
    have cancel : signedUnits s m + signedUnits (!s) m = 0 := by
      cases s with
      | true => exact Int.add_left_neg _
      | false => exact Int.add_right_neg _
    rw [sub_eq, Binary64.neg, Binary64.add, if_pos cancel, Bool.and_not_self]
    rfl

theorem sub_zero (positive : zero.less x = true) : x - zero = x := by
  rcases cases_positive positive with rfl | ⟨m, rfl, above⟩
  · rfl
  · have sum : signedUnits false m + signedUnits true .zero = (m.units : Int) := by
      have least : Magnitude.zero.units = 0 := rfl
      simp [signedUnits, least]
    have some_units : (m.units : Int) ≠ 0 := by omega
    have nonneg : decide ((m.units : Int) < 0) = false := by simp
    rw [sub_eq, zero, Binary64.neg, Binary64.add, Bool.not_false, sum, if_neg some_units, nonneg,
      Int.natAbs_natCast, ofUnits, Magnitude.nearest?_units, Option.elim_some]

end Binary64

namespace Number

variable {n : Number} {x : Binary64} {k : Int}

theorem same_trans {x y z : Number} (first : x.same y = true) (second : y.same z = true) :
    x.same z = true := by
  unfold same at *
  split at first <;> split at second <;> simp_all

theorem above_integer : less 0 (.integer k) = true ↔ 0 < k := by
  change decide (0 * (Binary64.one : Int) < k * Binary64.one) = true ↔ _
  rw [decide_eq_true_eq, Int.mul_lt_mul_right (by decide)]

theorem above_real (x : Binary64) : less 0 (.real x) = Binary64.zero.less x := by
  cases x with
  | nan => rfl
  | infinite s => cases s <;> rfl
  | finite s m =>
    have none : (0 : Int) * Binary64.one = Binary64.signedUnits false .zero := Int.zero_mul _
    change decide ((0 : Int) * Binary64.one < Binary64.signedUnits s m) = _
    rw [none]
    rfl

theorem nan_or_above (above : n.atMost 0 = false) : n = .real .nan ∨ less 0 n = true := by
  obtain ⟨notLess, notSame⟩ := Bool.or_eq_false_iff.mp above
  -- Against zero, a number that has a place on the exact scale is below, equal or above.
  have place (a : Int) (notLess : decide (a < 0 * (Binary64.one : Int)) = false)
      (notSame : decide (a = 0 * (Binary64.one : Int)) = false) :
      decide (0 * (Binary64.one : Int) < a) = true := by
    simp only [decide_eq_false_iff_not, decide_eq_true_eq] at notLess notSame ⊢
    omega
  cases n with
  | integer k => exact .inr (place _ notLess notSame)
  | real x =>
    cases x with
    | nan => exact .inl rfl
    | infinite s =>
      cases s with
      | true => cases notLess
      | false => exact .inr rfl
    | finite s m => exact .inr (place _ notLess notSame)

/-- The nearest binary64 number to a number above zero is above zero. -/
theorem toBinary64?_above (above : less 0 n = true) (near : n.toBinary64? = some x) :
    Binary64.zero.less x = true := by
  cases n with
  | real y =>
    cases near
    rwa [above_real] at above
  | integer k =>
    have positive := above_integer.mp above
    obtain ⟨m, nearest, rfl⟩ := Option.map_eq_some_iff.mp near
    have large : 1 ≤ k.natAbs * Binary64.one :=
      Nat.mul_pos (by omega) (by decide)
    have rounded := Magnitude.nearestCode_mono large
    have one : Magnitude.nearestCode 1 1 = 1 := by decide
    have code : m.code = Magnitude.nearestCode (k.natAbs * Binary64.one) 1 := by
      unfold Magnitude.nearest? at nearest
      simp only at nearest
      split at nearest
      · cases nearest
        rfl
      · cases nearest
    have units : 0 < m.units := Magnitude.units_pos.mpr (by omega)
    have sign : decide (k < 0) = false := decide_eq_false (by omega)
    have least : Binary64.signedUnits false .zero = 0 := rfl
    rw [sign, Binary64.zero, Binary64.less, least, decide_eq_true_eq]
    exact Int.natCast_pos.mpr units

end Number

end MeterPolling
