import MeterPolling.Proofs.Config.Change
import MeterPolling.Proofs.Numeral
import MeterPolling.Proofs.Sorting
/-!
The ports that are present, by the numbers in their names. Ports are listed, and configurations are
loaded and changed, whatever the names are, as long as all digits in them are decimal. One name with
another digit, such as a superscript, keeps all ports from being listed, and with that every
configuration from being loaded and changed.
-/
namespace MeterPolling

open Text

namespace Ports

variable {name : String} {present ports : List String} {f : Failure}

/-- The number that the decimal digits of a name form, zero without any. -/
def formed (name : String) : Int := Numeral.value 10 (name.toList.filterMap decimalValue?)

/-- A character of the name stands for a digit, but for no decimal one. -/
def HoldsOddDigit (name : String) : Prop :=
  ∃ c ∈ name.toList, isDigit c = true ∧ decimalValue? c = none

instance (name : String) : Decidable (HoldsOddDigit name) :=
  decidable_of_iff ((name.toList.any fun c => isDigit c && (decimalValue? c).isNone) = true)
    (by simp [HoldsOddDigit])

structure Arranged (present ports : List String) : Prop where
  perm : ports.Perm present
  ascending : ports.Pairwise fun a b => formed a ≤ formed b
  stable : ∀ n, (ports.filter fun name => formed name == n) =
    present.filter fun name => formed name == n

/-! ## The number of a name -/

theorem mem_digits {c : Char} : c ∈ digits name ↔ c ∈ name.toList ∧ isDigit c = true :=
  List.mem_filter

theorem filterMap_digits (name : String) :
    (digits name).filterMap decimalValue? = name.toList.filterMap decimalValue? := by
  rw [digits, List.filterMap_filter]
  refine List.filterMap_congr fun c _ => ?_
  cases decimal : decimalValue? c with
  | none => exact ite_self _
  | some d =>
    have digit : isDigit c = true := by simp [isDigit, decimal]
    rw [if_pos digit]

theorem number_empty (empty : digits name = []) : number name = .ok 0 := by
  simp only [number, empty, List.isEmpty_nil, if_true]

theorem number_full (full : digits name ≠ []) : number name =
    (Numeral.readInt? (String.ofList (digits name))).elim (.error .notNumeric) .ok := by
  simp only [number, List.isEmpty_eq_false_iff.mpr full, Bool.false_eq_true, if_false]
  split
  · rename_i read
    rw [read]
    rfl
  · rename_i unread
    rw [unread]
    rfl

theorem number_error (failed : number name = .error f) : f = .notNumeric := by
  by_cases empty : digits name = []
  · rw [number_empty empty] at failed
    cases failed
  · rw [number_full empty] at failed
    cases read : Numeral.readInt? (String.ofList (digits name)) <;> rw [read] at failed <;>
      cases failed
    rfl

/-- Decimal digits that are not too many form the number of a name. -/
theorem number_formed (decimal : ¬ HoldsOddDigit name) (short : (digits name).length ≤ maxDigits) :
    number name = .ok (formed name) := by
  have all : ∀ c ∈ digits name, (decimalValue? c).isSome = true := by
    intro c member
    obtain ⟨there, digit⟩ := mem_digits.mp member
    by_contra none
    exact decimal ⟨c, there, digit, Option.not_isSome_iff_eq_none.mp none⟩
  rw [formed, ← filterMap_digits]
  by_cases empty : digits name = []
  · rw [number_empty empty, empty]
    rfl
  · have count : ¬ ((digits name).filterMap decimalValue?).length > maxDigits :=
      Nat.not_lt.mpr (Nat.le_trans (List.length_filterMap_le _ _) short)
    rw [number_full empty, Numeral.readInt?_run empty fun c member => (mem_digits.mp member).2,
      Numeral.mapM_decimal all, Option.bind_some, if_neg count, Option.elim_some]

/-- With another digit a name has no number. -/
theorem number_odd (odd : HoldsOddDigit name) : number name = .error .notNumeric := by
  obtain ⟨c, there, digit, other⟩ := odd
  have member : c ∈ digits name := mem_digits.mpr ⟨there, digit⟩
  have full := List.ne_nil_of_mem member
  rw [number_full full, Numeral.readInt?_run full fun c member => (mem_digits.mp member).2,
    Numeral.mapM_undecimal member other, Option.bind_none, Option.elim_none]

/-! ## Listing -/

/-- Ports fail to be listed only where the digits of a name form no number. -/
theorem sorted_error (failed : sorted present = .error f) : f = .notNumeric := by
  rcases bind_error_iff.mp failed with unread | ⟨_, _, done⟩
  · obtain ⟨name, _, unread⟩ := mapM_error unread
    rcases bind_error_iff.mp unread with undigits | ⟨_, _, done⟩
    · exact number_error undigits
    · cases done
  · cases done

/-- Where all names have numbers, the ports are sorted by these. -/
theorem sorted_formed (numbers : ∀ name ∈ present, number name = .ok (formed name)) :
    sorted present = .ok (present.mergeSort fun a b => formed a ≤ formed b) := by
  have found : present.mapM numbered = .ok (present.map fun name => (formed name, name)) := by
    rw [mapM_ok_iff, List.forall₂_map_right_iff, List.forall₂_same]
    intro name member
    rw [numbered, numbers name member]
    rfl
  have sort : ((present.map fun name => (formed name, name)).mergeSort fun a b => a.1 ≤ b.1) =
      (present.mergeSort fun a b => formed a ≤ formed b).map fun name => (formed name, name) := by
    rw [List.map_mergeSort]
    exact fun _ _ _ _ => rfl
  unfold sorted
  rw [found]
  refine congrArg Except.ok ?_
  rw [sort, List.map_map]
  exact List.map_id _

/-- One name without a number keeps all ports from being listed. -/
theorem sorted_odd (member : name ∈ present) (odd : HoldsOddDigit name) :
    sorted present = .error .notNumeric := by
  cases listed : sorted present with
  | error f => rw [sorted_error listed]
  | ok ports =>
    obtain ⟨found, made, _⟩ := bind_ok_iff.mp listed
    obtain ⟨_, there⟩ := mapM_ok_mem made member
    rw [numbered, number_odd odd] at there
    cases there

theorem arranges (present : List String) :
    Arranged present (present.mergeSort fun a b => formed a ≤ formed b) :=
  ⟨List.mergeSort_perm _ _, mergeSort_ascending formed present, mergeSort_level formed present⟩

end Ports

namespace Config

variable {settings : List (String × Setting)} {format : Format} {file : File}
  {present ports : List String} {f : Failure}

/-! ## Configurations -/

theorem isPresent_perm (perm : ports.Perm present) (port : Setting) :
    isPresent port ports = isPresent port present := by
  cases port with
  | text name =>
    rw [isPresent, isPresent, Bool.eq_iff_iff, List.contains_iff_mem, List.contains_iff_mem]
    exact perm.mem_iff
  | _ => rfl

theorem load_eq (format : Format) (file : File) (present : List String) :
    (load format file present).2 =
      (readSettings format file).2.bind fun settings => ofSettings settings present := rfl

/-- Listed ports let every configuration be loaded that can be read. -/
theorem load_listed (listed : Ports.sorted present = .ok ports) (perm : ports.Perm present)
    (format : Format) (file : File) : (load format file present).2 =
      (readSettings format file).2.map fun settings =>
        ⟨settings, isPresent (value settings "com_port") present, false⟩ := by
  rw [load_eq]
  cases (readSettings format file).2 with
  | error f => rfl
  | ok settings =>
    simp only [Except.bind, ofSettings, listed, bind, isPresent_perm perm]
    rfl

theorem load_unlisted (failed : Ports.sorted present = .error f)
    (read : (readSettings format file).2 = .ok settings) :
    (load format file present).2 = .error f := by
  simp only [load_eq, read, Except.bind, ofSettings, failed, bind]

theorem update_listed (listed : Ports.sorted present = .ok ports) (perm : ports.Perm present)
    (c : Config) (values : List (String × Setting)) : (c.update values present).2 = .ok () ∧
      (c.update values present).1.isUsable =
        isPresent ((c.update values present).1.get "com_port") present := by
  simp only [update, listed, true_and]
  exact isPresent_perm perm _

theorem update_unlisted (failed : Ports.sorted present = .error f) (c : Config)
    (values : List (String × Setting)) : (c.update values present).2 = .error f := by
  simp only [update, failed]

/-- Ports whose names have decimal digits only are listed by their numbers, and no configuration fails
on them. A name with another digit keeps the ports from being listed, and makes loading and changing
every configuration fail. -/
theorem ports_are_listed_unless_odd
    (short : ∀ name ∈ present, (Ports.digits name).length ≤ maxDigits) :
    ((∀ name ∈ present, ¬ Ports.HoldsOddDigit name) →
      (∃ ports, Ports.sorted present = .ok ports ∧ Ports.Arranged present ports) ∧
      (∀ format file, (load format file present).2 =
        (readSettings format file).2.map fun settings =>
          ⟨settings, isPresent (value settings "com_port") present, false⟩) ∧
      ∀ (c : Config) values, (c.update values present).2 = .ok () ∧
        (c.update values present).1.isUsable =
          isPresent ((c.update values present).1.get "com_port") present) ∧
    ((∃ name ∈ present, Ports.HoldsOddDigit name) →
      Ports.sorted present = .error .notNumeric ∧
      (∀ format file settings, (readSettings format file).2 = .ok settings →
        (load format file present).2 = .error .notNumeric) ∧
      ∀ (c : Config) values, (c.update values present).2 = .error .notNumeric) := by
  constructor
  · intro decimal
    have listed := Ports.sorted_formed fun name member =>
      Ports.number_formed (decimal name member) (short name member)
    have arranged := Ports.arranges present
    exact ⟨⟨_, listed, arranged⟩, load_listed listed arranged.perm,
      update_listed listed arranged.perm⟩
  · rintro ⟨name, member, odd⟩
    have failed := Ports.sorted_odd member odd
    exact ⟨failed, fun _ _ _ read => load_unlisted failed read, update_unlisted failed⟩

/-- Names with numbers in digits of two scripts, two of them equal, and one without. -/
def mixedPorts : List String := ["COM10", "lpt", "COM٢", "ttyS2"]

theorem mixedPorts_sorted :
    (mixedPorts.mergeSort fun a b => Ports.formed a ≤ Ports.formed b) =
      ["lpt", "COM٢", "ttyS2", "COM10"] := by
  have ten : Ports.formed "COM10" = 10 := by decide +kernel
  have none : Ports.formed "lpt" = 0 := by decide +kernel
  have two : Ports.formed "COM٢" = 2 := by decide +kernel
  have again : Ports.formed "ttyS2" = 2 := by decide +kernel
  simp [mixedPorts, List.mergeSort, List.MergeSort.Internal.splitInTwo, ten, none, two, again]

theorem superscript_odd : Ports.HoldsOddDigit "COM²" := by decide +kernel

theorem mixed_ports_are_listed_superscript_is_not :
    (∀ name ∈ mixedPorts, (Ports.digits name).length ≤ maxDigits) ∧
      (∀ name ∈ mixedPorts, ¬ Ports.HoldsOddDigit name) ∧
      Ports.sorted mixedPorts = .ok ["lpt", "COM٢", "ttyS2", "COM10"] ∧
      Ports.Arranged mixedPorts ["lpt", "COM٢", "ttyS2", "COM10"] ∧
      (load .toml .missing mixedPorts).2 = .ok ⟨defaults, false, false⟩ ∧
      (∀ name ∈ ["COM1", "COM²"], (Ports.digits name).length ≤ maxDigits) ∧
      (load .toml .missing ["COM1", "COM²"]).2 = .error .notNumeric := by
  have short : ∀ name ∈ mixedPorts, (Ports.digits name).length ≤ maxDigits := by decide +kernel
  have decimal : ∀ name ∈ mixedPorts, ¬ Ports.HoldsOddDigit name := by decide +kernel
  obtain ⟨⟨ports, listed, arranged⟩, loads, _⟩ := (ports_are_listed_unless_odd short).1 decimal
  have oddShort : ∀ name ∈ ["COM1", "COM²"], (Ports.digits name).length ≤ maxDigits := by
    decide +kernel
  obtain ⟨_, fails, _⟩ :=
    (ports_are_listed_unless_odd oddShort).2 ⟨"COM²", by decide, superscript_odd⟩
  have sorted := Ports.sorted_formed fun name member =>
      Ports.number_formed (decimal name member) (short name member)
  rw [mixedPorts_sorted] at sorted
  rw [sorted] at listed
  cases listed
  exact ⟨short, decimal, sorted, arranged, loads .toml .missing, oddShort,
    fails .toml .missing defaults rfl⟩

/-- A name with a superscript keeps the ports from being listed and the defaults from being loaded. -/
theorem superscript_port_is_not_listed :
    (load .toml .missing ["COM²"]).2 = .error .notNumeric ∧
      ¬ ∀ present, (∀ name ∈ present, (Ports.digits name).length ≤ maxDigits) →
        ∃ ports, Ports.sorted present = .ok ports ∧ Ports.Arranged present ports := by
  have failed : Ports.sorted ["COM²"] = .error .notNumeric :=
    Ports.sorted_odd List.mem_cons_self superscript_odd
  refine ⟨load_unlisted failed rfl, fun all => ?_⟩
  obtain ⟨ports, listed, _⟩ := all ["COM²"] (by decide +kernel)
  rw [failed] at listed
  cases listed

end Config

end MeterPolling
