import MeterPolling.Session
import MeterPolling.Proofs.Setting
import MeterPolling.Proofs.Value
/-!
Presets as they are given. Numbers that are equal to the number of a preset, and numerals for it, are
taken as that preset. Almost all else is refused as a defect of the deployment, with a message that
shows what was given. What goes astray are numbers with a fraction, which is cut off; the infinities,
which nothing can be cut off from; and values that are too long to be shown in the message.
-/
namespace MeterPolling

/-! ## Whole parts -/

namespace Number

variable {n : Number} {u k : Int}

/-- A whole number has a text, unless it has too many digits. -/
theorem text_integer {n : Int} {why : Text.Fault} : (Number.integer n).text = .error why ↔
    10 ^ Text.maxDigits ≤ n.natAbs ∧ why = .digits := by
  rw [Number.text, Nat.pow_eq]
  by_cases long : 10 ^ Text.maxDigits ≤ n.natAbs
  · rw [if_pos long]
    constructor
    · rintro ⟨⟩
      exact ⟨long, rfl⟩
    · rintro ⟨_, rfl⟩
      rfl
  · rw [if_neg long]
    constructor
    · intro shown
      cases shown
    · exact fun known => absurd known.1 long

/-- The whole number in a finite number, on the scale where finite numbers are compared. -/
theorem Scaled.toInt (scaled : Scaled n u) :
    (Setting.number n).toInt = .ok (u.tdiv Binary64.one) := by
  have some_units : (Binary64.one : Int) ≠ 0 := by decide
  cases scaled with
  | integer k => rw [Int.mul_tdiv_cancel k some_units, Setting.toInt]
  | real s m =>
    have whole : (m.units : Int).tdiv Binary64.one = m.units / Binary64.one :=
      Int.tdiv_eq_ediv_of_nonneg (Int.natCast_nonneg _)
    cases s with
    | false => exact congrArg Except.ok whole.symm
    | true => exact congrArg Except.ok ((Int.neg_tdiv _ _).trans (congrArg (-·) whole)).symm

theorem tdiv_iff {b : Int} (some_units : 0 < b) (positive : 0 < k) :
    u.tdiv b = k ↔ k * b ≤ u ∧ u < (k + 1) * b := by
  rcases Int.lt_or_le u 0 with below | above
  · -- what is cut towards zero from below does not come above it
    have opposite : 0 ≤ (-u).tdiv b := Int.tdiv_nonneg (by omega) (Int.le_of_lt some_units)
    rw [Int.neg_tdiv] at opposite
    have product : 0 < k * b := Int.mul_pos positive some_units
    omega
  · rw [Int.tdiv_eq_ediv_of_nonneg above, Int.ediv_eq_iff_of_pos some_units, Int.add_mul, Int.one_mul]

theorem value_of_toInt (whole : (Setting.number n).toInt = .ok k) : ∃ a, n.value? = some a := by
  cases n with
  | integer j => exact ⟨j, rfl⟩
  | real x =>
    cases x with
    | nan => cases whole
    | infinite s => cases whole
    | finite s m => exact ⟨_, rfl⟩

/-- What is cut off from a number to a whole number above zero is less than one. -/
theorem toInt_iff (positive : 0 < k) : (Setting.number n).toInt = .ok k ↔
    ∃ a, n.value? = some a ∧ (k : ℚ) ≤ a ∧ a < k + 1 := by
  have units : 0 < (Binary64.one : Int) := by decide
  have scale (u : Int) (scaled : Scaled n u) : (Setting.number n).toInt = .ok k ↔
      (k : ℚ) ≤ u * Interchange.double.least ∧ u * Interchange.double.least < (k : ℚ) + 1 := by
    have next : (k : ℚ) + 1 = ((k + 1 : Int) : ℚ) := by push_cast; rfl
    rw [next, value_units k, value_units (k + 1)]
    rw [mul_le_mul_iff_of_pos_right Interchange.double.least_pos]
    rw [mul_lt_mul_iff_of_pos_right Interchange.double.least_pos]
    rw [Int.cast_le, Int.cast_lt, scaled.toInt, Except.ok.injEq, tdiv_iff units positive]
  constructor
  · intro whole
    obtain ⟨a, value⟩ := value_of_toInt whole
    obtain ⟨u, scaled, rfl⟩ := exists_scaled value
    exact ⟨_, value, (scale u scaled).mp whole⟩
  · rintro ⟨a, value, within⟩
    obtain ⟨u, scaled, rfl⟩ := exists_scaled value
    exact (scale u scaled).mpr within

end Number

/-! ## Values without a text -/

namespace Setting

variable {x : Setting} {why : Text.Fault}

/-- Of all but lists and tables only whole numbers can be too long for a text. -/
theorem quoted_error (plain : x.isPlain = true) (unshown : x.quoted = .error why) :
    ∃ n, x = .number (.integer n) ∧ 10 ^ Text.maxDigits ≤ n.natAbs := by
  cases x with
  | absent => cases unshown
  | flag b => cases b <;> cases unshown
  | text s => cases unshown
  | moment m => cases unshown
  | list items => cases plain
  | table entries => cases plain
  | number n =>
    cases n with
    | integer n =>
      rw [quoted] at unshown
      exact ⟨n, rfl, (Number.text_integer.mp unshown).1⟩
    | real x => cases unshown

theorem toInt_nested (nested : x.isPlain = false) : x.toInt = .error .wrongType := by
  cases x with
  | list | table => rfl
  | _ => cases nested

/-- The infinities alone are too large to be cut. -/
theorem toInt_tooLarge (large : x.toInt = .error .tooLarge) :
    ∃ s, x = .number (.real (.infinite s)) := by
  cases x with
  | number n =>
    cases n with
    | integer n => cases large
    | real x =>
      cases x with
      | nan => cases large
      | infinite s => exact ⟨s, rfl⟩
      | finite s m => cases large
  | text s =>
    simp only [toInt] at large
    split at large <;> cases large
  | _ => cases large

end Setting

namespace Preset

variable {x : Setting} {p : Preset} {n : Int} {f : Failure}

/-! ## Reading a preset -/

theorem find_value (p : Preset) : (all.find? fun q => (q.value : Int) == p.value) = some p := by
  cases p <;> rfl

/-- The preset is the one with the whole number in the value. -/
theorem ofSetting_ok_iff : ofSetting x = .ok p ↔ x.toInt = .ok p.value := by
  constructor
  · intro read
    simp only [ofSetting] at read
    split at read
    · cases read
    · cases read
    · rename_i n whole
      split at read
      · rename_i q found
        cases read
        have same : (p.value : Int) = n := eq_of_beq (List.find?_some found :)
        rw [whole, same]
      · cases read
  · intro whole
    simp only [ofSetting, whole, find_value]

/-- What has no whole number of a preset is refused, with its text where it has one. -/
theorem ofSetting_refused (unknown : ∀ p : Preset, x.toInt ≠ .ok p.value)
    (bounded : x.toInt ≠ .error .tooLarge) :
    ofSetting x = .error (match x.quoted with
      | .ok text => .configuration (.unknownPreset text [1, 2, 3, 4, 5, 6])
      | .error why => .textless why) := by
  simp only [ofSetting]
  split
  · exact absurd ‹_› bounded
  · rfl
  · rename_i n whole
    have unfound : all.find? (fun q => (q.value : Int) == n) = none :=
      List.find?_eq_none.mpr fun q _ same => unknown q (eq_of_beq same ▸ whole)
    rw [unfound]
    rfl

theorem value_positive (p : Preset) : 0 < (p.value : Int) := by
  cases p <;> decide

theorem value_short (p : Preset) : p.value < 10 ^ Text.maxDigits := by
  have least : 10 ≤ 10 ^ Text.maxDigits := Nat.le_self_pow (by decide) 10
  have small : p.value < 10 := by
    cases p <;> decide
  exact Nat.lt_of_lt_of_le small least

theorem ofSetting_long (long : 10 ^ Text.maxDigits ≤ n.natAbs) :
    ofSetting (.number (.integer n)) = .error (.textless .digits) := by
  have unknown : ∀ p : Preset, (Setting.number (.integer n)).toInt ≠ .ok p.value := by
    intro p whole
    cases whole
    exact absurd (value_short p) (Nat.not_lt.mpr long)
  rw [ofSetting_refused unknown nofun, Setting.quoted, Number.text_integer.mpr ⟨long, rfl⟩]

/-- A preset number is refused with a message, unless it is too long to be shown. -/
theorem ofSetting_integer (refused : ofSetting (.number (.integer n)) = .error f) :
    (∃ fault, f = .configuration fault) ∨
      10 ^ Text.maxDigits ≤ n.natAbs ∧ f = .textless .digits := by
  have unknown : ∀ p : Preset, (Setting.number (.integer n)).toInt ≠ .ok p.value := by
    intro p whole
    rw [ofSetting_ok_iff.mpr whole] at refused
    cases refused
  rw [ofSetting_refused unknown nofun, Setting.quoted] at refused
  cases shown : (Number.integer n).text with
  | ok text =>
    rw [shown] at refused
    cases refused
    exact .inl ⟨_, rfl⟩
  | error why =>
    rw [shown] at refused
    cases refused
    obtain ⟨long, rfl⟩ := Number.text_integer.mp shown
    exact .inr ⟨long, rfl⟩

/-! ## What a value names -/

/-- The value is a number equal to that of the preset, or a numeral for it. -/
inductive Names : Setting → Preset → Prop where
  | number {x : Setting} {n : Number} (p : Preset) : x.number? = some n →
      n.value? = some (p.value : ℚ) → Names x p
  | numeral {s : String} (p : Preset) : Text.Numeral.readInt? s = some (p.value : Int) →
      Names (.text s) p

/-- The values that name no preset and are not refused as such either, with what becomes of them. -/
inductive Astray : Setting → Except Failure Preset → Prop where
  /-- The fraction of a number is cut off. -/
  | fraction {n : Number} {a : ℚ} (p : Preset) : n.value? = some a → (p.value : ℚ) < a →
      a < p.value + 1 → Astray (.number n) (.ok p)
  | infinite (s : Bool) : Astray (.number (.real (.infinite s))) (.error .tooLarge)
  /-- A whole number is too long for the message. -/
  | long {n : Int} : 10 ^ Text.maxDigits ≤ n.natAbs →
      Astray (.number (.integer n)) (.error (.textless .digits))
  /-- So is a value inside a list or a table. -/
  | nested {x : Setting} {why : Text.Fault} : x.isPlain = false → x.quoted = .error why →
      Astray x (.error (.textless why))

structure Gives (x : Setting) (result : Except Failure Preset) : Prop where
  read : ofSetting x = result
  constructed : ∀ port verbose,
    Session.construct port x verbose = result.map fun p => Session.make port p verbose

theorem gives_of_read {result : Except Failure Preset} (read : ofSetting x = result) :
    Gives x result := by
  refine ⟨read, fun port verbose => ?_⟩
  rw [Session.construct, read]
  cases result <;> rfl

theorem toInt_number {n : Number} (number : x.number? = some n) :
    x.toInt = (Setting.number n).toInt := by
  cases x with
  | flag b =>
    cases number
    rfl
  | number m =>
    cases number
    rfl
  | _ => cases number

theorem Names.toInt (names : Names x p) : x.toInt = .ok p.value := by
  cases names with
  | number _ number value =>
    rw [toInt_number number]
    exact (Number.toInt_iff p.value_positive).mpr ⟨_, value, le_rfl, lt_add_one _⟩
  | numeral _ numeral => simp only [Setting.toInt, numeral]

/-- The whole number of a preset is in what names it, or was cut. -/
theorem names_of_toInt (whole : x.toInt = .ok p.value) : Names x p ∨ Astray x (.ok p) := by
  cases x with
  | flag b =>
    refine .inl (.number p rfl ?_)
    have same : (if b then 1 else 0 : Int) = p.value := Except.ok.inj whole
    rw [same]
    rfl
  | number n =>
    obtain ⟨a, value, above, below⟩ := (Number.toInt_iff p.value_positive).mp whole
    rw [Int.cast_natCast] at above below
    rcases above.eq_or_lt with same | less
    · exact .inl (.number p rfl (value.trans (congrArg some same.symm)))
    · exact .inr (.fraction p value less below)
  | text s =>
    simp only [Setting.toInt] at whole
    split at whole
    · rename_i read
      cases whole
      exact .inl (.numeral p read)
    · cases whole
  | _ => cases whole

theorem Astray.read {result : Except Failure Preset} (astray : Astray x result) :
    ofSetting x = result := by
  cases astray with
  | fraction p value above below =>
    exact ofSetting_ok_iff.mpr
      ((Number.toInt_iff p.value_positive).mpr ⟨_, value, le_of_lt above, below⟩)
  | infinite s => rfl
  | long long => exact ofSetting_long long
  | nested nested unshown =>
    have whole := Setting.toInt_nested nested
    rw [ofSetting_refused (by simp [whole]) (by simp [whole]), unshown]

/-- A value that names a preset is read as that one. Any other is refused with a message that shows it,
unless it goes astray: a number between that of a preset and the next whole number is taken as this
preset, an infinity is too large, and what is too long to be shown has no message. -/
theorem reads_names_unless_astray (x : Setting) :
    (∀ p, Names x p → Gives x (.ok p)) ∧
      ((∀ p, ¬ Names x p) → (∀ result, ¬ Astray x result) →
        ∃ text, x.quoted = .ok text ∧
          Gives x (.error (.configuration (.unknownPreset text [1, 2, 3, 4, 5, 6])))) ∧
      ∀ result, Astray x result → Gives x result := by
  refine ⟨fun p names => gives_of_read (ofSetting_ok_iff.mpr names.toInt), ?_,
    fun result astray => gives_of_read astray.read⟩
  intro unnamed regular
  have unknown : ∀ p : Preset, x.toInt ≠ .ok p.value := by
    intro p whole
    rcases names_of_toInt whole with names | astray
    · exact unnamed p names
    · exact regular _ astray
  have bounded : x.toInt ≠ .error .tooLarge := by
    intro large
    obtain ⟨s, rfl⟩ := Setting.toInt_tooLarge large
    exact regular _ (.infinite s)
  have refused := ofSetting_refused unknown bounded
  cases shown : x.quoted with
  | ok text =>
    rw [shown] at refused
    exact ⟨text, rfl, gives_of_read refused⟩
  | error why =>
    cases plain : x.isPlain with
    | false => exact absurd (.nested plain shown) (regular _)
    | true =>
      obtain ⟨n, rfl, long⟩ := Setting.quoted_error plain shown
      exact absurd (.long long) (regular _)

def twoAndHalf : Binary64 := .ofQuotient false 5 2

theorem twoAndHalf_value : twoAndHalf.value? = some (5 / 2) := by
  obtain ⟨m, units⟩ := Magnitude.exists_units (n := 5) (e := 1073) (by decide) (by decide)
  have double : m.units * 2 = 5 * Binary64.one := by
    rw [units]
    decide
  have value : m.value = 5 / 2 := by
    have exact : (m.units : ℚ) * 2 = 5 * Binary64.one := by exact_mod_cast double
    rw [eq_div_iff two_ne_zero, Magnitude.value_eq, mul_right_comm, exact, mul_assoc,
      Binary64.one_least, mul_one]
  have rounds := Binary64.ofQuotient_rounds false 5 (d := 2) (by decide)
  rw [Nat.cast_ofNat, Nat.cast_ofNat, ← value] at rounds
  rw [twoAndHalf, rounds.of_value]
  exact congrArg some value

/-- A numeral in digits of two scripts, a NaN, and a number with a fraction. -/
theorem numeral_is_read_nan_is_refused_fraction_is_cut :
    Names (.text " +٠_3") .b19200n ∧ Gives (.text " +٠_3") (.ok .b19200n) ∧
      (∀ p, ¬ Names (.number (.real .nan)) p) ∧
      (∀ result, ¬ Astray (.number (.real .nan)) result) ∧
      Gives (.number (.real .nan))
        (.error (.configuration (.unknownPreset "nan" [1, 2, 3, 4, 5, 6]))) ∧
      Astray (.number (.real twoAndHalf)) (.ok .b9600n) ∧
      Gives (.number (.real twoAndHalf)) (.ok .b9600n) := by
  have third : Names (.text " +٠_3") .b19200n := .numeral .b19200n (by decide +kernel)
  have unnamed : ∀ p, ¬ Names (.number (.real .nan)) p := by
    rintro p (⟨_, number, value⟩ | _)
    cases number
    cases value
  have regular : ∀ result, ¬ Astray (.number (.real .nan)) result := by
    intro result astray
    cases astray with
    | fraction p value => cases value
    | nested nested => cases nested
  have cut : Astray (.number (.real twoAndHalf)) (.ok .b9600n) :=
    .fraction .b9600n twoAndHalf_value (by norm_num [Preset.value]) (by norm_num [Preset.value])
  obtain ⟨text, shown, refused⟩ :=
    (reads_names_unless_astray (.number (.real .nan))).2.1 unnamed regular
  cases shown
  exact ⟨third, (reads_names_unless_astray _).1 _ third, unnamed, regular, refused, cut,
    (reads_names_unless_astray _).2.2 _ cut⟩

/-- Not all that names no preset is refused as such. -/
theorem infinity_is_not_refused :
    ¬ ∀ x : Setting, (∀ p, Names x p → ofSetting x = .ok p) ∧
      ((∀ p, ¬ Names x p) → ∃ fault, ofSetting x = .error (.configuration fault)) := by
  intro all
  have unnamed : ∀ p, ¬ Names (.number (.real (.infinite false))) p := by
    rintro p (⟨_, number, value⟩ | _)
    cases number
    cases value
  obtain ⟨fault, refused⟩ := (all _).2 unnamed
  cases refused

end Preset

end MeterPolling
