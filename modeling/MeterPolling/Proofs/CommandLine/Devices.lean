import MeterPolling.CommandLine
import MeterPolling.Proofs.Config.Entry
import MeterPolling.Proofs.Config.Validity
/-!
Devices on the command line. They are read by the same rules as the entries of a configuration: a
list of them is accepted just if each of them would be as an entry. They are handed on with their
addresses in plain digits, which changes neither the device nor the producer that they name, is left
alone when it is read once more, and can be relied on to be valid.
-/
namespace MeterPolling

namespace Config

variable {settings : List (String × Setting)} {entries : List Setting}

/-- Entries that are accepted make no difference to validation. -/
theorem validate_accepted (accepted : ∀ entry ∈ entries,
      ∃ device, parseDevice entry (value settings "default_producer") = .ok device) :
    validate (replaced settings [("device_ids", .list entries)]) =
      validate (replaced settings [("device_ids", .list [])]) := by
  have found (xs : List Setting) (next : List Setting → Except Failure Unit) :
      elements (.list xs) >>= next = next xs := rfl
  induction entries with
  | nil => rfl
  | cons entry rest ih =>
    obtain ⟨⟨device, parsed⟩, later⟩ := List.forall_mem_cons.mp accepted
    rw [← ih later]
    simp only [validate, value_devices, value_apart, ne_eq, String.reduceEq, not_false_eq_true,
      found, List.forIn_cons, parsed, pure_bind]

end Config

namespace CommandLine

open Text Config

inductive Plain (n : Int) : String → Prop where
  | bare : Plain n (toString n)
  | named (producer : String) : producer ≠ "" → Plain n (toString n ++ ":" ++ producer)

/-- An entry and what is handed on for it name the same device, with a valid address, and the same
producer, whichever is the default one. -/
def Agrees (entry written : String) : Prop :=
  ∃ n : Int, 1 ≤ n ∧ n ≤ 247 ∧ Plain n written ∧ ∀ fallback, ∃ name,
    parseDevice (.text entry) fallback = .ok (n, name) ∧
    parseDevice (.text written) fallback = .ok (n, name)

variable {entry written : String} {fallback : Setting} {n : Int} {o : Options}
  {arguments entries devices : List String}

/-! ## One device -/

/-- What is handed on for the parts of an entry. -/
theorem readDevice_iff : readDevice entry = .ok written ↔
    ∃ n, Numeral.readInt? (String.ofList (cutAt ':' entry.toList).1) = some n ∧
      Device.isValid n = true ∧
      written = if (cutAt ':' entry.toList).2.isEmpty then toString n
        else toString n ++ ":" ++ String.ofList (cutAt ':' entry.toList).2 := by
  unfold readDevice
  generalize cutAt ':' entry.toList = parts
  obtain ⟨device, producer⟩ := parts
  simp only
  cases Numeral.readInt? (String.ofList device) with
  | none => simp
  | some n =>
    cases valid : Device.isValid n with
    | false => simp [valid]
    | true =>
      simp only [valid, ← apply_ite Except.ok, Bool.not_true, Bool.false_eq_true, if_false,
        Except.ok.injEq, Option.some.injEq]
      constructor
      · rintro rfl
        exact ⟨n, rfl, valid, rfl⟩
      · rintro ⟨_, rfl, _, rfl⟩
        rfl

/-- Whether an entry is accepted does not depend on what becomes of its producer. -/
theorem readDevice_accepts_iff (fallback : Setting) :
    (∃ written, readDevice entry = .ok written) ↔
      ∃ device, parseDevice (.text entry) fallback = .ok device := by
  constructor
  · rintro ⟨written, read⟩
    obtain ⟨n, number, valid, _⟩ := readDevice_iff.mp read
    exact ⟨(n, _), (parseDevice_iff rfl).mpr ⟨number, valid, rfl⟩⟩
  · rintro ⟨⟨n, name⟩, parsed⟩
    obtain ⟨number, valid, _⟩ := (parseDevice_iff rfl).mp parsed
    exact ⟨_, readDevice_iff.mpr ⟨n, number, valid, rfl⟩⟩

/-- What is handed on is a plain device, which is cut where the entry was. -/
theorem readDevice_cut (read : readDevice entry = .ok written) :
    ∃ n, Device.isValid n = true ∧ Plain n written ∧
      Numeral.readInt? (String.ofList (cutAt ':' entry.toList).1) = some n ∧
      cutAt ':' written.toList = ((toString n).toList, (cutAt ':' entry.toList).2) := by
  obtain ⟨n, number, valid, rfl⟩ := readDevice_iff.mp read
  have colon := Numeral.colon_not_mem n
  refine ⟨n, valid, ?_, number, ?_⟩
  all_goals generalize (cutAt ':' entry.toList).2 = producer
  · cases producer with
    | nil => exact .bare
    | cons c rest => exact .named (String.ofList (c :: rest)) (by simp)
  · cases producer with
    | nil => exact cutAt_absent colon
    | cons c rest =>
      have letters : (toString n ++ ":" ++ String.ofList (c :: rest)).toList =
          (toString n).toList ++ ':' :: c :: rest := by
        simp
      exact letters ▸ cutAt_append colon

theorem readDevice_agrees (read : readDevice entry = .ok written) : Agrees entry written := by
  obtain ⟨n, valid, plain, number, cut⟩ := readDevice_cut read
  have back := Numeral.readInt?_toString (Device.isValid_short valid)
  obtain ⟨low, high⟩ := Device.isValid_iff.mp valid
  refine ⟨n, low, high, plain, fun fallback => ?_⟩
  refine ⟨_, (parseDevice_iff rfl).mpr ⟨number, valid, rfl⟩, (parseDevice_iff rfl).mpr ?_⟩
  rw [cut, String.ofList_toList]
  exact ⟨back, valid, rfl⟩

/-- What is handed on is left alone when it is read once more. -/
theorem readDevice_again (read : readDevice entry = .ok written) :
    readDevice written = .ok written := by
  obtain ⟨n, valid, _, number, cut⟩ := readDevice_cut read
  obtain ⟨n', number', _, same⟩ := readDevice_iff.mp read
  rw [number] at number'
  cases number'
  refine readDevice_iff.mpr ⟨n, ?_, valid, ?_⟩
  · rw [cut, String.ofList_toList]
    exact Numeral.readInt?_toString (Device.isValid_short valid)
  · rw [cut]
    exact same

/-! ## All devices -/

/-- What begins with a digit is no option. -/
theorem readArguments_undashed (undashed : ∀ argument ∈ arguments, argument.toList.head? ≠ some '-') :
    readArguments o arguments = .ok (o, arguments) := by
  induction arguments with
  | nil => rw [readArguments]
  | cons argument rest ih =>
    obtain ⟨first, later⟩ := List.forall_mem_cons.mp undashed
    rw [readArguments]
    split
    · rename_i begins
      simp [begins] at first
    · rename_i begins
      simp [begins] at first
    · rw [ih later]
      rfl

/-- After two dashes everything is left to be a device. -/
theorem readArguments_dashes : readArguments o ("--" :: entries) = .ok (o, entries) := by
  rw [readArguments]
  rfl

/-- A valid address begins with a digit. -/
theorem Plain.undashed (plain : Plain n written) (valid : Device.isValid n = true) :
    written.toList.head? ≠ some '-' := by
  obtain ⟨low, _⟩ := Device.isValid_iff.mp valid
  obtain ⟨k, rfl⟩ := Int.eq_ofNat_of_zero_le (Int.le_trans (by decide) low)
  have begins : ∃ c more, (toString (Int.ofNat k)).toList = c :: more ∧ c ≠ '-' := by
    rw [Numeral.toList_ofNat]
    cases digits : Nat.toDigits 10 k with
    | nil => exact absurd digits Nat.toDigits_ne_nil
    | cons c more =>
      refine ⟨c, more, rfl, ?_⟩
      rintro rfl
      have digit := Nat.isDigit_of_mem_toDigits (by decide) (by decide) (digits ▸ List.mem_cons_self)
      cases digit
  obtain ⟨c, more, letters, digit⟩ := begins
  change (toString (k : Int)).toList = c :: more at letters
  cases plain with
  | bare => rwa [letters, List.head?_cons, ne_eq, Option.some.injEq]
  | named producer _ =>
    rwa [String.toList_append, String.toList_append, letters, List.cons_append, List.cons_append,
      List.head?_cons, ne_eq, Option.some.injEq]

/-- With the arguments that are left apart from the options, all devices are read. -/
theorem read_iff (left : readArguments .initial arguments = .ok (o, entries))
    {result : Options × List String} : read arguments = .ok result ↔
      result.1 = o ∧ List.Forall₂ (fun entry written => readDevice entry = .ok written) entries
        result.2 := by
  obtain ⟨o', devices⟩ := result
  simp only [read, bind_ok_iff, left, Except.ok.injEq, exists_eq_left', mapM_ok_iff]
  constructor
  · rintro ⟨_, made, rfl, rfl⟩
    exact ⟨rfl, made⟩
  · rintro ⟨rfl, made⟩
    exact ⟨devices, made, rfl⟩

theorem exists_devices_iff (fallback : Setting) :
    (∃ devices, List.Forall₂ (fun entry written => readDevice entry = .ok written) entries devices) ↔
      ∀ entry ∈ entries, ∃ device, parseDevice (.text entry) fallback = .ok device := by
  induction entries with
  | nil => simp
  | cons entry rest ih =>
    rw [List.forall_mem_cons, ← ih, ← readDevice_accepts_iff]
    constructor
    · rintro ⟨_, made⟩
      cases made with
      | cons first later => exact ⟨⟨_, first⟩, _, later⟩
    · rintro ⟨⟨_, first⟩, _, later⟩
      exact ⟨_, .cons first later⟩

section Written

variable (made : List.Forall₂ (fun entry written => readDevice entry = .ok written) entries devices)
include made

/-- What holds of whatever is handed on for an entry holds of all devices. -/
theorem forall_written {P : String → Prop}
    (each : ∀ entry written, readDevice entry = .ok written → P written) :
    ∀ device ∈ devices, P device := by
  induction made with
  | nil => simp
  | cons first _ ih => exact List.forall_mem_cons.mpr ⟨each _ _ first, ih⟩

/-- The devices are read again as they were handed on. -/
theorem read_again : read devices = .ok (.initial, devices) := by
  have undashed : ∀ device ∈ devices, device.toList.head? ≠ some '-' := by
    refine forall_written made fun entry written read => ?_
    obtain ⟨n, valid, plain, _⟩ := readDevice_cut read
    exact plain.undashed valid
  have again : ∀ device ∈ devices, readDevice device = .ok device :=
    forall_written made fun entry written => readDevice_again
  exact (read_iff (readArguments_undashed undashed)).mpr ⟨rfl, List.forall₂_same.mpr again⟩

/-- Devices that were handed on make no difference to validation. -/
theorem validate_written (settings : List (String × Setting)) :
    validate (replaced settings [("device_ids", .list (devices.map .text))]) =
      validate (replaced settings [("device_ids", .list [])]) := by
  have accepted : ∀ device ∈ devices, ∃ parsed,
      parseDevice (.text device) (value settings "default_producer") = .ok parsed :=
    forall_written made fun entry written read =>
      (readDevice_accepts_iff _).mp ⟨_, readDevice_again read⟩
  exact validate_accepted (List.forall_mem_map.mpr accepted)

end Written

/-- A command line is accepted just if each of the arguments that are left apart from its options
would be as an entry. Then its devices are those arguments in plain digits, which stay as they are
when they are read once more, and on account of which no settings are ever refused. -/
theorem reads_devices_as_entries (left : readArguments .initial arguments = .ok (o, entries)) :
    (∀ fallback, (∃ result, read arguments = .ok result) ↔
      ∀ entry ∈ entries, ∃ device, parseDevice (.text entry) fallback = .ok device) ∧
    ∀ o' devices, read arguments = .ok (o', devices) →
      o' = o ∧ List.Forall₂ Agrees entries devices ∧ read devices = .ok (.initial, devices) ∧
      ∀ settings, validate (replaced settings [("device_ids", .list (devices.map .text))]) =
        validate (replaced settings [("device_ids", .list [])]) := by
  constructor
  · intro fallback
    rw [← exists_devices_iff fallback]
    constructor
    · rintro ⟨result, accepted⟩
      exact ⟨_, ((read_iff left).mp accepted).2⟩
    · rintro ⟨devices, made⟩
      exact ⟨(o, devices), (read_iff left).mpr ⟨rfl, made⟩⟩
  · intro o' devices accepted
    obtain ⟨same, made⟩ := (read_iff left).mp accepted
    exact ⟨same, made.imp fun _ _ => readDevice_agrees, read_again made, validate_written made⟩

/-- Devices in digits of another script, with a sign and blanks and with marks that name nothing. -/
def spelledEntries : List String := [" +\u0663:", "0_12:dzg:x"]

theorem reads_spelled_devices :
    readArguments .initial ("--" :: spelledEntries) = .ok (.initial, spelledEntries) ∧
      ∃ devices, read ("--" :: spelledEntries) = .ok (.initial, devices) ∧
        List.Forall₂ Agrees spelledEntries devices ∧ read devices = .ok (.initial, devices) ∧
        ∀ settings, validate (replaced settings [("device_ids", .list (devices.map .text))]) =
          validate (replaced settings [("device_ids", .list [])]) := by
  have left : readArguments .initial ("--" :: spelledEntries) = .ok (.initial, spelledEntries) :=
    readArguments_dashes
  have parsed : ∀ entry ∈ spelledEntries,
      ∃ device, parseDevice (.text entry) .absent = .ok device := by
    simp only [spelledEntries, List.forall_mem_cons]
    exact ⟨⟨(3, .absent), by decide +kernel⟩, ⟨(12, .text "dzg:x"), by decide +kernel⟩, nofun⟩
  obtain ⟨accepts, kept⟩ := reads_devices_as_entries left
  obtain ⟨⟨o, devices⟩, accepted⟩ := (accepts .absent).mpr parsed
  obtain ⟨rfl, agrees, again, valid⟩ := kept o devices accepted
  exact ⟨left, devices, accepted, agrees, again, valid⟩

end CommandLine

end MeterPolling
