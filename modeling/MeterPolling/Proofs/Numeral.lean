import Mathlib.Algebra.Group.Nat.Defs
import MeterPolling.Text.Numeral
/-!
Digits in numerals. Only decimal digits form numerals; the other characters that stand for digits do
not, neither by themselves nor among decimal ones. A whole number that is written in plain digits is
read back.
-/
namespace MeterPolling.Text

variable {c : Char} {d : Nat}

def blanks : List Nat :=
  [9, 10, 11, 12, 13, 0x20, 0x85, 0xa0, 0x1680, 0x2000, 0x2001, 0x2002, 0x2003, 0x2004, 0x2005,
    0x2006, 0x2007, 0x2008, 0x2009, 0x200a, 0x2028, 0x2029, 0x202f, 0x205f, 0x3000]

theorem mem_blanks (blank : isBlank c = true) : c.toNat ∈ blanks := by
  simp only [isBlank, Bool.or_eq_true, Bool.and_eq_true, decide_eq_true_eq, beq_iff_eq] at blank
  simp only [blanks, List.mem_cons, List.not_mem_nil, or_false]
  omega

/-- A digit is no blank. -/
theorem isBlank_digit (digit : isDigit c = true) : isBlank c = false := by
  cases blank : isBlank c with
  | false => rfl
  | true =>
    have undigits : ∀ n ∈ blanks, isDigit (Char.ofNat n) = false := by decide +kernel
    have undigit := undigits _ (mem_blanks blank)
    rw [Char.ofNat_toNat, digit] at undigit
    cases undigit

theorem decimalValue?_lt (decimal : decimalValue? c = some d) : d < 10 := by
  simp only [decimalValue?] at decimal
  split at decimal
  · split at decimal
    · rename_i within
      simp only [Bool.and_eq_true, decide_eq_true_eq] at within
      cases decimal
      omega
    · cases decimal
  · obtain ⟨first, found, rfl⟩ := Option.map_eq_some_iff.mp decimal
    have within := List.find?_some found
    simp only [Bool.and_eq_true, decide_eq_true_eq] at within
    omega

/-- A digit that is not decimal lies past the letters. -/
theorem digitValue?_other (digit : isDigit c = true) (other : decimalValue? c = none) :
    Numeral.digitValue? c = none := by
  have listed : ∃ r ∈ otherDigits, r.1 ≤ c.toNat ∧ c.toNat ≤ r.2 := by
    simpa [isDigit, other] using digit
  obtain ⟨r, among, low, _⟩ := listed
  have late : ∀ r ∈ otherDigits, 'z'.toNat < r.1 := by decide
  have past : 'z' < c :=
    Char.lt_def.mpr (UInt32.lt_iff_toNat_lt.mpr (Nat.lt_of_lt_of_le (late r among) low))
  have small : ¬ c ≤ 'z' := Char.not_le.mpr past
  have large : ¬ c ≤ 'Z' := Char.not_le.mpr (Char.lt_trans (by decide) past)
  simp [Numeral.digitValue?, other, small, large]

namespace Numeral

/-! ## Plain digits -/

/-- What a digit of ASCII is taken for. -/
theorem digitChar_plain : ∀ d < 10, isBlank (Nat.digitChar d) = false ∧
    plainDigit (Nat.digitChar d) = Nat.digitChar d ∧ digitValue? (Nat.digitChar d) = some d := by
  decide

theorem digits?_plain {ds : List Nat} (some_digits : ds ≠ []) (small : ∀ d ∈ ds, d < 10) :
    digits? 10 (ds.map Nat.digitChar) = some ds := by
  induction ds with
  | nil => exact absurd rfl some_digits
  | cons d rest ih =>
    obtain ⟨below, small⟩ := List.forall_mem_cons.mp small
    obtain ⟨_, _, value⟩ := digitChar_plain d below
    cases rest with
    | nil => simp [digits?, value, below]
    | cons e more =>
      have under : Nat.digitChar e ≠ '_' := by simp
      have later := ih (List.cons_ne_nil e more) small
      rw [List.map_cons] at later
      simp [digits?, value, below, under, later]

/-- The digits in which a number is written, with their values. -/
theorem toDigits_eq_map (n : Nat) : ∃ ds, Nat.toDigits 10 n = ds.map Nat.digitChar ∧
    (∀ d ∈ ds, d < 10) ∧ value 10 ds = n := by
  induction n using Nat.strongRecOn with
  | ind n ih =>
    rw [Nat.toDigits_eq_if (by decide)]
    by_cases single : n < 10
    · exact ⟨[n], by simp [single], by simpa using single, by simp [value]⟩
    · obtain ⟨ds, digits, small, same⟩ := ih (n / 10) (by omega)
      refine ⟨ds ++ [n % 10], by simp [single, digits], ?_, ?_⟩
      · intro d member
        rcases List.mem_append.mp member with earlier | last
        · exact small d earlier
        · rw [List.mem_singleton.mp last]
          omega
      · rw [value, List.foldl_append, ← value, same]
        simp only [List.foldl_cons, List.foldl_nil]
        omega

theorem trimBlanks_visible {cs : List Char} (visible : ∀ c ∈ cs, isBlank c = false) :
    trimBlanks cs = cs := by
  have keeps (l : List Char) (visible : ∀ c ∈ l, isBlank c = false) : l.dropWhile isBlank = l := by
    cases l with
    | nil => rfl
    | cons c rest => rw [List.dropWhile_cons_of_neg (by simp [visible c List.mem_cons_self])]
  have back : ∀ c ∈ cs.reverse, isBlank c = false := fun c member =>
    visible c (List.mem_reverse.mp member)
  rw [trimBlanks, keeps cs visible, keeps cs.reverse back, List.reverse_reverse]

/-- The characters of a whole number in plain digits are read as they stand. -/
theorem signAndRest_plain {s : String} {cs : List Char} (letters : s.toList = cs)
    (plain : ∀ c ∈ cs, isBlank c = false ∧ plainDigit c = c) : signAndRest s = splitSign cs := by
  have kept : cs.map plainDigit = cs :=
    (List.map_congr_left fun c member => (plain c member).2).trans (List.map_id cs)
  rw [signAndRest, letters, trimBlanks_visible fun c member => (plain c member).1, kept]

theorem splitSign_digits {ds : List Nat} (some_digits : ds ≠ []) :
    splitSign (ds.map Nat.digitChar) = (false, ds.map Nat.digitChar) := by
  cases ds with
  | nil => exact absurd rfl some_digits
  | cons d rest => simp [splitSign]

theorem toList_ofNat (n : Nat) : (toString (Int.ofNat n)).toList = Nat.toDigits 10 n :=
  Nat.toList_repr

theorem toList_negSucc (n : Nat) :
    (toString (Int.negSucc n)).toList = '-' :: Nat.toDigits 10 (n + 1) :=
  String.toList_append.trans (congrArg ('-' :: ·) Nat.toList_repr)

/-- A whole number in plain digits is read back, unless it is too long. -/
theorem readInt?_toString {n : Int} (short : n.natAbs < 10 ^ maxDigits) :
    readInt? (toString n) = some n := by
  obtain ⟨ds, digits, small, same⟩ := toDigits_eq_map n.natAbs
  have some_digits : ds ≠ [] := by
    rintro rfl
    exact Nat.toDigits_ne_nil digits
  have length : ds.length ≤ maxDigits := by
    have count := (Nat.length_toDigits_le_iff (by decide) (by decide)).mpr short
    rwa [digits, List.length_map] at count
  have plain : ∀ c ∈ ds.map Nat.digitChar, isBlank c = false ∧ plainDigit c = c := by
    intro c member
    obtain ⟨d, among, rfl⟩ := List.mem_map.mp member
    obtain ⟨visible, kept, _⟩ := digitChar_plain d (small d among)
    exact ⟨visible, kept⟩
  have read := digits?_plain some_digits small
  rw [readInt?_eq]
  cases n with
  | ofNat n =>
    have letters : (toString (Int.ofNat n)).toList = ds.map Nat.digitChar :=
      (toList_ofNat n).trans digits
    rw [signAndRest_plain letters plain, splitSign_digits some_digits]
    simp only [read, Option.bind_some, gt_iff_lt, Nat.not_lt.mpr length, if_false, same,
      Bool.false_eq_true]
    rfl
  | negSucc n =>
    have letters : (toString (Int.negSucc n)).toList = '-' :: ds.map Nat.digitChar :=
      (toList_negSucc n).trans (congrArg ('-' :: ·) digits)
    have minus : ∀ c ∈ '-' :: ds.map Nat.digitChar, isBlank c = false ∧ plainDigit c = c :=
      List.forall_mem_cons.mpr ⟨by decide, plain⟩
    rw [signAndRest_plain letters minus, splitSign]
    simp only [read, Option.bind_some, gt_iff_lt, Nat.not_lt.mpr length, if_false, if_true, same]
    rfl

/-- No whole number has a colon in it. -/
theorem colon_not_mem (n : Int) : ':' ∉ (toString n).toList := by
  have undigit (n : Nat) : ':' ∉ Nat.toDigits 10 n := by
    intro member
    have digit := Nat.isDigit_of_mem_toDigits (by decide) (by decide) member
    cases digit
  cases n with
  | ofNat n =>
    rw [toList_ofNat]
    exact undigit n
  | negSucc n =>
    rw [toList_negSucc, List.mem_cons]
    rintro (sign | digit)
    · cases sign
    · exact undigit _ digit

/-! ## Runs of digits -/

section Runs

variable {cs : List Char}

theorem digits?_none {base : Nat} (none : digitValue? c = none) (rest : List Char) :
    digits? base (c :: rest) = .none := by
  cases rest with
  | nil => simp [digits?, none]
  | cons d rest =>
    by_cases under : d = '_'
    · subst under
      simp [digits?, none]
    · simp [digits?, none, under]

theorem digits?_cons {base : Nat} {next : Char} (c : Char) (rest : List Char) (under : next ≠ '_') :
    digits? base (c :: next :: rest) = (digitValue? c).bind fun d =>
      if d < base then (d :: ·) <$> digits? base (next :: rest) else none := by
  simp [digits?, under]

/-- A digit is taken neither for a sign nor for an underscore. -/
theorem plainDigit_digit (digit : isDigit c = true) :
    plainDigit c ≠ '-' ∧ plainDigit c ≠ '+' ∧ plainDigit c ≠ '_' := by
  cases decimal : decimalValue? c with
  | some d =>
    have apart : ∀ d < 10, Nat.digitChar d ≠ '-' ∧ Nat.digitChar d ≠ '+' ∧ Nat.digitChar d ≠ '_' := by
      decide
    simpa only [plainDigit, decimal] using apart d (decimalValue?_lt decimal)
  | none =>
    simp only [plainDigit, decimal]
    refine ⟨?_, ?_, ?_⟩ <;>
      · rintro rfl
        cases digit

theorem signAndRest_digits (digits : ∀ c ∈ cs, isDigit c = true) :
    signAndRest (String.ofList cs) = (false, cs.map plainDigit) := by
  have visible : trimBlanks cs = cs :=
    trimBlanks_visible fun c member => isBlank_digit (digits c member)
  rw [signAndRest, String.toList_ofList, visible]
  cases cs with
  | nil => rfl
  | cons c rest =>
    obtain ⟨minus, plus, _⟩ := plainDigit_digit (digits c List.mem_cons_self)
    simp [splitSign, minus, plus]

/-- Digits have values as digits of a numeral just if all of them are decimal. -/
theorem digits?_run (some_digits : cs ≠ []) (digits : ∀ c ∈ cs, isDigit c = true) :
    digits? 10 (cs.map plainDigit) = cs.mapM decimalValue? := by
  induction cs with
  | nil => exact absurd rfl some_digits
  | cons c rest ih =>
    obtain ⟨digit, digits⟩ := List.forall_mem_cons.mp digits
    rw [List.map_cons, List.mapM_cons]
    cases decimal : decimalValue? c with
    | none =>
      have plain : plainDigit c = c := by simp [plainDigit, decimal]
      rw [plain, digits?_none (digitValue?_other digit decimal)]
      rfl
    | some d =>
      have below := decimalValue?_lt decimal
      have plain : plainDigit c = Nat.digitChar d := by simp [plainDigit, decimal]
      obtain ⟨_, _, value⟩ := digitChar_plain d below
      cases rest with
      | nil => simp [plain, digits?, value, below]
      | cons next more =>
        have under := (plainDigit_digit (digits next List.mem_cons_self)).2.2
        have later := ih (List.cons_ne_nil next more) digits
        rw [List.map_cons] at later ⊢
        rw [digits?_cons _ _ under, plain, value, Option.bind_some, if_pos below, later]
        cases (next :: more).mapM decimalValue? <;> rfl

/-- Digits form a numeral just if all of them are decimal and they are not too many. -/
theorem readInt?_run (some_digits : cs ≠ []) (digits : ∀ c ∈ cs, isDigit c = true) :
    readInt? (String.ofList cs) = (cs.mapM decimalValue?).bind fun ds =>
      if ds.length > maxDigits then none else some (value 10 ds : Int) := by
  rw [readInt?_eq, signAndRest_digits digits]
  simp only [digits?_run some_digits digits, Bool.false_eq_true, if_false]

/-- A digit by itself is a numeral just if it is a decimal one. -/
theorem readInt?_digit (digit : isDigit c = true) :
    readInt? (String.singleton c) = (decimalValue? c).map Int.ofNat := by
  have run := readInt?_run (List.cons_ne_nil c []) (by simpa using digit)
  rw [String.singleton_eq_ofList, run, List.mapM_cons]
  cases decimalValue? c with
  | none => rfl
  | some d => simp [maxDigits, value]

theorem mapM_decimal (decimal : ∀ c ∈ cs, (decimalValue? c).isSome = true) :
    cs.mapM decimalValue? = some (cs.filterMap decimalValue?) := by
  induction cs with
  | nil => rfl
  | cons c rest ih =>
    obtain ⟨first, later⟩ := List.forall_mem_cons.mp decimal
    obtain ⟨d, value⟩ := Option.isSome_iff_exists.mp first
    rw [List.mapM_cons, ih later, List.filterMap_cons_some value, value]
    rfl

theorem mapM_undecimal (member : c ∈ cs) (other : decimalValue? c = none) :
    cs.mapM decimalValue? = none := by
  induction cs with
  | nil => cases member
  | cons first rest ih =>
    rw [List.mapM_cons]
    rcases List.mem_cons.mp member with rfl | later
    · rw [other]
      rfl
    · rw [ih later]
      cases decimalValue? first <;> rfl

end Runs

end Numeral

end MeterPolling.Text
