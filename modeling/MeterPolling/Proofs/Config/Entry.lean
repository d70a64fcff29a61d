import Mathlib.Data.List.TakeWhile
import MeterPolling.Proofs.Config.Change
import MeterPolling.Proofs.Numeral
/-!
Entries of devices that are accepted. The text of such an entry begins with a number, so that the
entry is neither a list nor a table; whether it is accepted does not depend on the default producer.
Of texts and whole numbers just those are accepted that name a device.
-/
namespace MeterPolling

namespace Text

theorem trimBlanks_cons {c : Char} (visible : isBlank c = false) (rest : List Char) :
    ∃ more, trimBlanks (c :: rest) = c :: more := by
  have front : (c :: rest).dropWhile isBlank = c :: rest := by
    simp [visible]
  simp only [trimBlanks, front, List.reverse_cons, List.dropWhile_append]
  split
  · exact ⟨[], by simp [visible]⟩
  · exact ⟨(rest.reverse.dropWhile isBlank).reverse, by simp⟩

namespace Numeral

/-- No number begins with a bracket or a brace. -/
theorem readInt?_bracket {c : Char} (bracket : c = '[' ∨ c = '\x7b') (rest : List Char) :
    readInt? (String.ofList (c :: rest)) = none := by
  have visible : isBlank c = false := by
    rcases bracket with rfl | rfl <;> rfl
  have undigit : digitValue? c = none := by
    rcases bracket with rfl | rfl <;> rfl
  obtain ⟨more, trimmed⟩ := trimBlanks_cons visible rest
  have apart : signAndRest (String.ofList (c :: rest)) = (false, c :: more.map plainDigit) := by
    unfold signAndRest
    rw [String.toList_ofList, trimmed]
    rcases bracket with rfl | rfl <;> rfl
  have undigits : digits? 10 (c :: more.map plainDigit) = none := digits?_none undigit _
  unfold readInt? readInBase?
  rw [apart]
  rcases bracket with rfl | rfl <;> exact congrArg (Option.bind · _) undigits

end Numeral

section Cut

variable {c : Char} {cs before after : List Char}

theorem cutAt_absent (absent : c ∉ cs) : cutAt c cs = (cs, []) := by
  have all : ∀ d ∈ cs, (d != c) = true := fun d member =>
    bne_iff_ne.mpr fun same => absent (same ▸ member)
  rw [cutAt, List.takeWhile_eq_self_iff.mpr all, List.dropWhile_eq_nil_iff.mpr all, List.drop_nil]

theorem cutAt_append (absent : c ∉ before) : cutAt c (before ++ c :: after) = (before, after) := by
  have all : ∀ d ∈ before, (d != c) = true := fun d member =>
    bne_iff_ne.mpr fun same => absent (same ▸ member)
  simp [cutAt, List.takeWhile_append_of_pos all, List.dropWhile_append_of_pos all]

end Cut

end Text

theorem Device.isValid_iff {n : Int} : isValid n = true ↔ 1 ≤ n ∧ n ≤ 247 :=
  Bool.and_eq_true_iff.trans (and_congr decide_eq_true_iff decide_eq_true_iff)

/-- A valid address is far from being too long. -/
theorem Device.isValid_short {n : Int} (valid : isValid n = true) :
    n.natAbs < 10 ^ Text.maxDigits := by
  have least : 10 ^ 3 ≤ 10 ^ Text.maxDigits := Nat.pow_le_pow_right (by decide) (by decide)
  obtain ⟨above, below⟩ := isValid_iff.mp valid
  generalize 10 ^ Text.maxDigits = bound at least ⊢
  omega

namespace Config

variable {entry fallback name : Setting} {text : String} {n : Int}

theorem parseDevice_bracket {c : Char} {rest : List Char} (bracket : c = '[' ∨ c = '\x7b')
    {text : String} (shown : entry.shown = .ok text) (begins : text.toList = c :: rest) :
    parseDevice entry fallback = .error (.device text) := by
  have other : (c != ':') = true := by
    rcases bracket with rfl | rfl <;> rfl
  simp only [parseDevice, shown, Text.cutAt, begins, List.takeWhile_cons, other, if_true,
    Text.Numeral.readInt?_bracket bracket]

theorem parseDevice_shown {device : Int × Setting}
    (parsed : parseDevice entry fallback = .ok device) :
    ∃ text, entry.shown = .ok text := by
  cases shown : entry.shown with
  | error why => simp [parseDevice, shown] at parsed
  | ok text => exact ⟨text, rfl⟩

/-- An entry that is accepted is neither a list nor a table. -/
theorem parseDevice_plain {device : Int × Setting}
    (parsed : parseDevice entry fallback = .ok device) :
    entry.isPlain = true := by
  obtain ⟨text, shown⟩ := parseDevice_shown parsed
  cases entry with
  | list items =>
    have written := shown
    simp only [Setting.shown, Setting.quoted] at written
    obtain ⟨inner, _, same⟩ := bind_ok_iff.mp written
    cases same
    rw [parseDevice_bracket (.inl rfl) shown (by simp; rfl)] at parsed
    cases parsed
  | table entries =>
    have written := shown
    simp only [Setting.shown, Setting.quoted] at written
    obtain ⟨inner, _, same⟩ := bind_ok_iff.mp written
    cases same
    rw [parseDevice_bracket (.inr rfl) shown (by simp; rfl)] at parsed
    cases parsed
  | _ => rfl

theorem parseDevice_fallback (accepted : ∃ device, parseDevice entry fallback = .ok device)
    (other : Setting) : ∃ device, parseDevice entry other = .ok device := by
  obtain ⟨device, parsed⟩ := accepted
  simp only [parseDevice] at parsed ⊢
  split at parsed
  · cases parsed
  · split at parsed
    · cases parsed
    · split at parsed
      · cases parsed
      · simp_all

/-! ## What an entry names -/

theorem shown_integer {k : Int} : (Setting.number (.integer k)).shown = .ok text ↔
    k.natAbs < 10 ^ Text.maxDigits ∧ text = toString k := by
  have written : (Setting.number (.integer k)).shown = (Number.integer k).text := rfl
  rw [written, Number.text, Nat.pow_eq, ← Nat.not_le]
  split
  · rename_i long
    simp [long]
  · rename_i short
    simp [short, eq_comm]

/-- What is read of the text of an entry. -/
theorem parseDevice_iff (shown : entry.shown = .ok text) :
    parseDevice entry fallback = .ok (n, name) ↔
      Text.Numeral.readInt? (String.ofList (Text.cutAt ':' text.toList).1) = some n ∧
        Device.isValid n = true ∧
        name = if (Text.cutAt ':' text.toList).2.isEmpty then fallback
          else .text (String.ofList (Text.cutAt ':' text.toList).2) := by
  simp only [parseDevice, shown]
  generalize Text.cutAt ':' text.toList = parts
  cases Text.Numeral.readInt? (String.ofList parts.1) with
  | none => simp
  | some k =>
    by_cases valid : Device.isValid k = true
    · simp only [valid, Bool.not_true, Bool.false_eq_true, if_false, Except.ok.injEq, Prod.mk.injEq,
        Option.some.injEq]
      constructor
      · rintro ⟨rfl, rfl⟩
        exact ⟨rfl, valid, rfl⟩
      · rintro ⟨rfl, _, rfl⟩
        exact ⟨rfl, rfl⟩
    · rw [Bool.not_eq_true] at valid
      simp only [valid, Bool.not_false, if_true, reduceCtorEq, Option.some.injEq, false_iff]
      rintro ⟨rfl, checked, _⟩
      rw [valid] at checked
      cases checked

/-- What an entry names: the address of a device, and its producer or else the fallback. -/
inductive Names (fallback : Setting) : Setting → Int → Setting → Prop where
  | number (n : Int) : Device.isValid n = true → Names fallback (.number (.integer n)) n fallback
  | bare (device : String) (n : Int) : ':' ∉ device.toList →
      Text.Numeral.readInt? device = some n → Device.isValid n = true →
      Names fallback (.text device) n fallback
  | unnamed (device : String) (n : Int) : ':' ∉ device.toList →
      Text.Numeral.readInt? device = some n → Device.isValid n = true →
      Names fallback (.text (device ++ ":")) n fallback
  | named (device producer : String) (n : Int) : ':' ∉ device.toList →
      Text.Numeral.readInt? device = some n → Device.isValid n = true → producer ≠ "" →
      Names fallback (.text (device ++ ":" ++ producer)) n (.text producer)

theorem parseDevice_bare (bare : ':' ∉ text.toList) :
    parseDevice (.text text) fallback = .ok (n, name) ↔
      Text.Numeral.readInt? text = some n ∧ Device.isValid n = true ∧ name = fallback := by
  rw [parseDevice_iff rfl, Text.cutAt_absent bare, String.ofList_toList]
  rfl

theorem parseDevice_marked {device producer : String} (bare : ':' ∉ device.toList) :
    parseDevice (.text (device ++ ":" ++ producer)) fallback = .ok (n, name) ↔
      Text.Numeral.readInt? device = some n ∧ Device.isValid n = true ∧
        name = if producer = "" then fallback else .text producer := by
  have cut : Text.cutAt ':' (device ++ ":" ++ producer).toList = (device.toList, producer.toList) := by
    have letters : (device ++ ":" ++ producer).toList = device.toList ++ ':' :: producer.toList := by
      simp
    rw [letters, Text.cutAt_append bare]
  rw [parseDevice_iff rfl, cut]
  simp

theorem parseDevice_number {k : Int} :
    parseDevice (.number (.integer k)) fallback = .ok (n, name) ↔
      n = k ∧ Device.isValid n = true ∧ name = fallback := by
  have parsed (short : k.natAbs < 10 ^ Text.maxDigits) :
      parseDevice (.number (.integer k)) fallback = .ok (n, name) ↔
        n = k ∧ Device.isValid n = true ∧ name = fallback := by
    rw [parseDevice_iff (shown_integer.mpr ⟨short, rfl⟩),
      Text.cutAt_absent (Text.Numeral.colon_not_mem k), String.ofList_toList,
      Text.Numeral.readInt?_toString short, Option.some.injEq, @eq_comm _ k]
    rfl
  constructor
  · intro accepted
    obtain ⟨text, shown⟩ := parseDevice_shown accepted
    exact (parsed (shown_integer.mp shown).1).mp accepted
  · rintro ⟨rfl, valid, rfl⟩
    exact (parsed (Device.isValid_short valid)).mpr ⟨rfl, valid, rfl⟩

/-- Texts and whole numbers: what an entry of a list of devices is to be. -/
def isEntry : Setting → Bool
  | .text _ | .number (.integer _) => true
  | _ => false

/-- An entry is accepted just when it names a device, and then it is understood as that device. -/
theorem parseDevice_names (proper : isEntry entry = true) :
    parseDevice entry fallback = .ok (n, name) ↔ Names fallback entry n name := by
  constructor
  · intro parsed
    cases entry with
    | text text =>
      by_cases marked : ':' ∈ text.toList
      · obtain ⟨before, after, split, bare⟩ := List.eq_append_cons_of_mem marked
        have joined : text = String.ofList before ++ ":" ++ String.ofList after := by
          apply String.toList_injective
          simp [split]
        have bare : ':' ∉ (String.ofList before).toList := by simpa using bare
        subst joined
        obtain ⟨read, valid, rfl⟩ := (parseDevice_marked bare).mp parsed
        split
        · rename_i empty
          rw [empty, String.append_empty]
          exact .unnamed _ n bare read valid
        · rename_i given
          exact .named _ _ n bare read valid given
      · obtain ⟨read, valid, rfl⟩ := (parseDevice_bare marked).mp parsed
        exact .bare text n marked read valid
    | number x =>
      cases x with
      | integer k =>
        obtain ⟨rfl, valid, rfl⟩ := parseDevice_number.mp parsed
        exact .number n valid
      | real x => cases proper
    | _ => cases proper
  · intro names
    cases names with
    | number _ valid => exact parseDevice_number.mpr ⟨rfl, valid, rfl⟩
    | bare device _ bare read valid => exact (parseDevice_bare bare).mpr ⟨read, valid, rfl⟩
    | unnamed device _ bare read valid =>
      have parsed : parseDevice (.text (device ++ ":" ++ "")) fallback = .ok (n, fallback) :=
        (parseDevice_marked bare).mpr ⟨read, valid, rfl⟩
      rwa [String.append_empty] at parsed
    | named device producer _ bare read valid given =>
      exact (parseDevice_marked bare).mpr ⟨read, valid, (if_neg given).symm⟩

end Config

end MeterPolling
