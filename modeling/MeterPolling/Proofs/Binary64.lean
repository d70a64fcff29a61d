import MeterPolling.Proofs.Rounding
/-!
The order of binary64 numbers, and what rounding does to it. A magnitude has the position that its
units are rounded to, and rounding never turns two sums around. So a time that is later stays later
when the same pause is added to both, and no pause leads back in time. This is all that is needed of
the numbers to speak of deadlines.
-/
namespace MeterPolling

variable {n n' d : Nat}

namespace Magnitude

theorem nearestCode_eq (n d : Nat) : nearestCode n d = Interchange.double.nearestCode n d := by
  simp only [nearestCode, Nat.shiftLeft_eq]
  rfl

theorem units_eq (m : Magnitude) : m.units = Interchange.double.units m.code := by
  unfold units
  rw [Nat.shiftLeft_eq]
  rfl

/-- What is computed from a quotient of units is the position of the nearest magnitude. -/
theorem nearestCode_nearest (n : Nat) (positive : 0 < d) :
    Interchange.double.Nearest (n / d * Interchange.double.least) (nearestCode n d) := by
  rw [nearestCode_eq]
  exact Interchange.double.nearestCode_nearest n positive

/-- Rounding keeps the order. -/
theorem nearestCode_mono (le : n ≤ n') : nearestCode n 1 ≤ nearestCode n' 1 := by
  apply (nearestCode_nearest n Nat.one_pos).mono (nearestCode_nearest n' Nat.one_pos)
  rw [Nat.cast_one, div_one, div_one]
  exact mul_le_mul_of_nonneg_right (by exact_mod_cast le) (le_of_lt Interchange.double.least_pos)

theorem nearest_some (bounded : nearestCode n 1 < Binary64.magnitudes) :
    nearest? n 1 = some ⟨nearestCode n 1, bounded⟩ := dif_pos bounded

theorem nearest_none (large : ¬ nearestCode n 1 < Binary64.magnitudes) : nearest? n 1 = none :=
  dif_neg large

/-- A magnitude is rounded to itself. -/
theorem nearestCode_units (m : Magnitude) : nearestCode m.units 1 = m.code := by
  have nearest := nearestCode_nearest m.units Nat.one_pos
  rw [Nat.cast_one, div_one, units_eq, ← Interchange.value_eq] at nearest
  rw [units_eq]
  exact Interchange.nearest_value_iff.mp nearest

theorem units_le_iff {m m' : Magnitude} : m.units ≤ m'.units ↔ m.code ≤ m'.code := by
  rw [units_eq, units_eq]
  exact Interchange.double.units_strictMono.le_iff_le

end Magnitude

namespace Binary64

/-- Not NaN, and in order. -/
instance : LE Binary64 := ⟨fun x y => x.isNaN = false ∧ y.isNaN = false ∧ y.less x = false⟩

/-- Where a number that is not negative stands among all of them, the infinity last. -/
def position : Binary64 → Nat
  | .finite _ m => m.code
  | _ => magnitudes

theorem position_finite (s : Bool) (m : Magnitude) : (finite s m).position = m.code := rfl

theorem position_infinite (s : Bool) : (infinite s).position = magnitudes := rfl

variable {x y z d : Binary64}

theorem le_refl (number : x.isNaN = false) : x ≤ x := by
  refine ⟨number, number, ?_⟩
  cases x with
  | nan => rfl
  | infinite s => cases s <;> rfl
  | finite s m => simp [less]

theorem le_trans (first : x ≤ y) (second : y ≤ z) : x ≤ z := by
  obtain ⟨left, middle, first⟩ := first
  obtain ⟨_, right, second⟩ := second
  refine ⟨left, right, ?_⟩
  cases x with
  | nan => cases left
  | infinite s =>
    cases y with
    | nan => cases middle
    | infinite t => cases z <;> simp_all [less]
    | finite t b => cases z <;> simp_all [less]
  | finite s a =>
    cases y with
    | nan => cases middle
    | infinite t => cases z <;> simp_all [less]
    | finite t b =>
      cases z with
      | nan => cases right
      | infinite u => simp_all [less]
      | finite u c =>
        simp only [less, decide_eq_false_iff_not] at first second ⊢
        omega

theorem le_of_less (less : x.less y = true) : x ≤ y := by
  cases x with
  | nan => cases less
  | infinite s =>
    cases y with
    | nan => cases less
    | infinite t =>
      refine ⟨rfl, rfl, ?_⟩
      cases s <;> cases t <;> first | rfl | cases less
    | finite t b =>
      obtain rfl : s = true := less
      exact ⟨rfl, rfl, rfl⟩
  | finite s a =>
    cases y with
    | nan => cases less
    | infinite t => exact ⟨rfl, rfl, by cases t <;> first | rfl | cases less⟩
    | finite t b =>
      have below : signedUnits s a < signedUnits t b := of_decide_eq_true less
      exact ⟨rfl, rfl, decide_eq_false (Int.not_lt.mpr (Int.le_of_lt below))⟩

/-- A number that is not negative is the infinity, or has the units of its magnitude. -/
theorem cases_nonneg (nonneg : zero ≤ x) :
    x = .infinite false ∨ ∃ s m, x = .finite s m ∧ signedUnits s m = m.units := by
  obtain ⟨_, number, order⟩ := nonneg
  cases x with
  | nan => cases number
  | infinite s =>
    cases s with
    | false => exact .inl rfl
    | true => cases order
  | finite s m =>
    refine .inr ⟨s, m, rfl, ?_⟩
    have none : signedUnits false Magnitude.zero = 0 := rfl
    simp only [zero, less, none, decide_eq_false_iff_not] at order
    unfold signedUnits at order ⊢
    cases s with
    | false => rfl
    | true =>
      simp only [if_true] at order ⊢
      omega

theorem le_iff_position (left : zero ≤ x) (right : zero ≤ y) : x ≤ y ↔ x.position ≤ y.position := by
  have order : x ≤ y ↔ y.less x = false := ⟨fun le => le.2.2, fun le => ⟨left.2.1, right.2.1, le⟩⟩
  rw [order]
  rcases cases_nonneg left with rfl | ⟨s, a, rfl, units⟩
  · rcases cases_nonneg right with rfl | ⟨t, b, rfl, units'⟩
    · simp [less, position]
    · simp only [less, position]
      have := b.bounded
      simp; omega
  · rcases cases_nonneg right with rfl | ⟨t, b, rfl, units'⟩
    · simp only [less, position]
      have := a.bounded
      simp; omega
    · rw [less, units, units', decide_eq_false_iff_not, Int.ofNat_lt, Nat.not_lt]
      exact Magnitude.units_le_iff

theorem zero_le_finite (m : Magnitude) : zero ≤ .finite false m := by
  refine ⟨rfl, rfl, ?_⟩
  have none : signedUnits false Magnitude.zero = 0 := rfl
  rw [zero, less, none, decide_eq_false_iff_not, Int.not_lt]
  exact Int.natCast_nonneg m.units

theorem zero_le_none (s : Bool) : zero ≤ .finite s .zero := by
  cases s <;> exact ⟨rfl, rfl, by decide⟩

theorem zero_le_infinite : zero ≤ .infinite false := ⟨rfl, rfl, rfl⟩

/-- What is rounded stands where its units are rounded to. -/
theorem ofUnits_position (n : Nat) : zero ≤ ofUnits false n 1 ∧
    (ofUnits false n 1).position = min (Magnitude.nearestCode n 1) magnitudes := by
  by_cases bounded : Magnitude.nearestCode n 1 < magnitudes
  · have found : ofUnits false n 1 = .finite false ⟨Magnitude.nearestCode n 1, bounded⟩ := by
      rw [ofUnits, Magnitude.nearest_some bounded, Option.elim_some]
    rw [found, position_finite, Nat.min_eq_left (Nat.le_of_lt bounded)]
    exact ⟨zero_le_finite _, rfl⟩
  · have found : ofUnits false n 1 = .infinite false := by
      rw [ofUnits, Magnitude.nearest_none bounded, Option.elim_none]
    rw [found, position_infinite, Nat.min_eq_right (Nat.le_of_not_lt bounded)]
    exact ⟨zero_le_infinite, rfl⟩

/-- A sum of numbers that are not negative is not negative, and it stands where the sum of the units
is rounded to. -/
theorem add_finite {s t : Bool} {a b : Magnitude} (left : signedUnits s a = a.units)
    (right : signedUnits t b = b.units) :
    zero ≤ Binary64.finite s a + .finite t b ∧
      (Binary64.finite s a + .finite t b).position =
        min (Magnitude.nearestCode (a.units + b.units) 1) magnitudes := by
  have sum : signedUnits s a + signedUnits t b = ((a.units + b.units : Nat) : Int) := by
    rw [left, right, Int.natCast_add]
  have unfolded : Binary64.finite s a + .finite t b =
      if ((a.units + b.units : Nat) : Int) = 0 then .finite (s && t) .zero
      else ofUnits (((a.units + b.units : Nat) : Int) < 0) (a.units + b.units) 1 := by
    change Binary64.add _ _ = _
    rw [Binary64.add, sum, Int.natAbs_natCast]
  have positive : decide (((a.units + b.units : Nat) : Int) < 0) = false :=
    decide_eq_false (Int.not_lt.mpr (Int.natCast_nonneg _))
  rw [unfolded, positive]
  split
  · rename_i none
    rw [Int.natCast_eq_zero.mp none, position_finite]
    exact ⟨zero_le_none (s && t), by decide⟩
  · exact ofUnits_position _

theorem position_le (x : Binary64) : x.position ≤ magnitudes := by
  cases x with
  | finite s m => exact Nat.le_of_lt m.bounded
  | nan => exact Nat.le_refl _
  | infinite s => exact Nat.le_refl _

theorem infinite_add (nonneg : zero ≤ d) : infinite false + d = infinite false := by
  rcases cases_nonneg nonneg with rfl | ⟨t, b, rfl, _⟩
  · rfl
  · rfl

theorem add_infinite (nonneg : zero ≤ x) : x + infinite false = infinite false := by
  rcases cases_nonneg nonneg with rfl | ⟨s, a, rfl, _⟩
  · rfl
  · rfl

theorem add_nonneg (left : zero ≤ x) (right : zero ≤ d) : zero ≤ x + d := by
  rcases cases_nonneg left with rfl | ⟨s, a, rfl, units⟩
  · rw [infinite_add right]
    exact zero_le_infinite
  · rcases cases_nonneg right with rfl | ⟨t, b, rfl, units'⟩
    · rw [add_infinite left]
      exact zero_le_infinite
    · exact (add_finite units units').1

/-- A later time stays later after the same pause. -/
theorem add_le_add_right (left : zero ≤ x) (le : x ≤ y) (pause : zero ≤ d) : x + d ≤ y + d := by
  have right : zero ≤ y := le_trans left le
  rw [le_iff_position (add_nonneg left pause) (add_nonneg right pause)]
  rcases cases_nonneg right with rfl | ⟨t, b, rfl, units'⟩
  · rw [infinite_add pause]
    exact position_le _
  · rcases cases_nonneg pause with rfl | ⟨u, c, rfl, units''⟩
    · exact Nat.le_of_eq (by rw [add_infinite left, add_infinite right])
    · have places := (le_iff_position left right).mp le
      rcases cases_nonneg left with rfl | ⟨s, a, rfl, units⟩
      · rw [position_infinite, position_finite] at places
        exact absurd b.bounded (Nat.not_lt.mpr places)
      · have sums : a.units + c.units ≤ b.units + c.units :=
          Nat.add_le_add_right (Magnitude.units_le_iff.mpr places) _
        have rounded := Magnitude.nearestCode_mono sums
        rw [(add_finite units units'').2, (add_finite units' units'').2]
        exact Nat.le_min.mpr ⟨Nat.le_trans (Nat.min_le_left _ _) rounded, Nat.min_le_right _ _⟩

/-- No pause leads back in time. -/
theorem le_add (nonneg : zero ≤ x) (pause : zero ≤ d) : x ≤ x + d := by
  rw [le_iff_position nonneg (add_nonneg nonneg pause)]
  rcases cases_nonneg nonneg with rfl | ⟨s, a, rfl, units⟩
  · exact Nat.le_of_eq (by rw [infinite_add pause])
  · rcases cases_nonneg pause with rfl | ⟨t, b, rfl, units'⟩
    · rw [add_infinite nonneg]
      exact position_le _
    · have rounded := Magnitude.nearestCode_mono (Nat.le_add_right a.units b.units)
      rw [Magnitude.nearestCode_units] at rounded
      rw [(add_finite units units').2, position_finite]
      exact Nat.le_min.mpr ⟨rounded, Nat.le_of_lt a.bounded⟩

end Binary64

end MeterPolling
