import MeterPolling.CommandLine
import MeterPolling.Proofs.Config.Override
import MeterPolling.Proofs.Ports
import MeterPolling.Proofs.Preset
/-!
How overrides of the command line are refused. Almost all that is wrong with them is reported as a
defect of the deployment, after which the program stops with a message. What escapes are the
characters that count as digits and are not decimal, preset numbers too long to be shown, and ports
that cannot be listed.
-/
namespace MeterPolling

namespace Config

variable {settings values part : List (String × Setting)} {c : Config} {o : Overrides}
  {present ports : List String} {text : String} {f : Failure}

/-! ## Validation -/

theorem check_error {fault : String → SettingFault} {x : Setting} {bad : Bool}
    {next : Unit → Except Failure Unit}
    (refused : (if bad = true then (refuse fault x >>= next) else next ()) = .error f) :
    (∃ fault, f = .setting fault) ∨ next () = .error f := by
  cases bad with
  | true =>
    cases refused
    exact .inl ⟨_, rfl⟩
  | false => exact .inr refused

theorem checkEach_error (fallback : Setting) (entries : List Setting)
    (refused : (forIn entries PUnit.unit fun entry _ =>
      match parseDevice entry fallback with
      | .ok _ => pure (ForInStep.yield PUnit.unit)
      | .error fault => do
        throw (Failure.setting fault)
        pure (ForInStep.yield PUnit.unit) : Except Failure PUnit) = .error f) :
    ∃ fault, f = .setting fault := by
  induction entries with
  | nil => cases refused
  | cons entry rest ih =>
    rw [List.forIn_cons] at refused
    cases parsed : parseDevice entry fallback with
    | error fault =>
      rw [parsed] at refused
      cases refused
      exact ⟨fault, rfl⟩
    | ok device =>
      rw [parsed] at refused
      exact ih refused

/-- Settings are refused for a value, unless the interval or the devices cannot be looked at. -/
theorem validate_error (refused : validate settings = .error f) :
    (∃ fault, f = .setting fault) ∨ isNotPositive (value settings "poll_interval") = .error f ∨
      elements (value settings "device_ids") = .error f := by
  unfold validate at refused
  rcases check_error refused with fault | refused
  · exact .inl fault
  rcases check_error refused with fault | refused
  · exact .inl fault
  rcases check_error refused with fault | refused
  · exact .inl fault
  rcases bind_error_iff.mp refused with interval | ⟨bad, _, refused⟩
  · exact .inr (.inl interval)
  rcases check_error refused with fault | refused
  · exact .inl fault
  rcases bind_error_iff.mp refused with devices | ⟨entries, _, refused⟩
  · exact .inr (.inr devices)
  rcases bind_error_iff.mp refused with fault | ⟨_, _, done⟩
  · exact .inl (checkEach_error _ _ fault)
  · cases done

/-! ## Reading the parts -/

/-- The last character counts as a digit, but is no decimal one. -/
def EndsOddly (text : String) : Prop :=
  ∃ parity stop, (Text.upper text).toList = ['8', parity, stop] ∧ Text.isDigit stop = true ∧
    Text.decimalValue? stop = none

theorem ofSerialText_odd (odd : EndsOddly text) : ofSerialText text = .error .notNumeric := by
  obtain ⟨parity, stop, letters, digit, decimal⟩ := odd
  rw [Overrides.ofSerialText_formed letters digit, decimal]

theorem ofSerialText_error (refused : ofSerialText text = .error f) :
    (∃ fault, f = .configuration fault) ∨ EndsOddly text ∧ f = .notNumeric := by
  rcases Overrides.ofSerialText_cases text with ⟨parity, stop, letters, digit⟩ | unformed
  · cases decimal : Text.decimalValue? stop with
    | some n =>
      rw [Overrides.ofSerialText_formed letters digit, decimal] at refused
      cases refused
    | none =>
      have odd : EndsOddly text := ⟨parity, stop, letters, digit, decimal⟩
      rw [ofSerialText_odd odd] at refused
      cases refused
      exact .inr ⟨odd, rfl⟩
  · rw [unformed] at refused
    cases refused
    exact .inl ⟨_, rfl⟩

namespace Overrides

/-- The parts are read in this order, and the first one that fails decides. -/
theorem values_error_iff : o.values = .error f ↔ o.serialPart = .error f ∨
    ∃ part, o.serialPart = .ok part ∧ (o.presetPart = .error f ∨
      ∃ part, o.presetPart = .ok part ∧ o.deviceList = .error f) := by
  unfold Overrides.values
  simp only [bind_error_iff]
  constructor
  · rintro (serial | ⟨part, serial, preset | ⟨part', preset, devices | ⟨_, _, done⟩⟩⟩)
    · exact .inl serial
    · exact .inr ⟨part, serial, .inl preset⟩
    · exact .inr ⟨part, serial, .inr ⟨part', preset, devices⟩⟩
    · cases done
  · rintro (serial | ⟨part, serial, preset | ⟨part', preset, devices⟩⟩)
    · exact .inl serial
    · exact .inr ⟨part, serial, .inl preset⟩
    · exact .inr ⟨part, serial, .inr ⟨part', preset, .inl devices⟩⟩

end Overrides

theorem value_or {x? : Option Setting} {new old : List (String × Setting)} {key : String}
    (replaced : new.lookup key = x?.or (old.lookup key)) :
    value new key = x?.getD (value old key) := by
  rw [value, replaced, value, Option.getD_or]

theorem override_unread (refused : o.values = .error f) :
    c.override o present = (c, .error f) := by
  simp only [override, refused]

end Config

namespace CommandLine

open Config

variable {c : Config} {o : Options} {devices present : List String} {f : Failure}
  {values part : List (String × Setting)}

/-! ## The command line -/

theorem serialPart_error (refused : (overrides o devices).serialPart = .error f) :
    ∃ text, o.serial = some text ∧ ofSerialText text = .error f := by
  cases said : o.serial with
  | none =>
    simp only [Overrides.serialPart, overrides, said, Option.map_none, Option.getD_none] at refused
    cases refused
  | some text =>
    simp only [Overrides.serialPart, overrides, said, Option.map_some, Option.getD_some] at refused
    split at refused
    · cases refused
    · exact ⟨text, rfl, refused⟩

theorem serialPart_odd {text : String} (said : o.serial = some text) (odd : EndsOddly text) :
    (overrides o devices).serialPart = .error .notNumeric := by
  have some_text : text.isEmpty = false := by
    cases empty : text.isEmpty with
    | false => rfl
    | true =>
      obtain ⟨parity, stop, letters, _⟩ := odd
      rw [String.isEmpty_iff.mp empty] at letters
      cases letters
  simp [Overrides.serialPart, overrides, said, some_text, ofSerialText_odd odd]

theorem presetPart_none (unsaid : o.preset = none) : (overrides o devices).presetPart = .ok [] := by
  simp only [Overrides.presetPart, overrides, unsaid, Option.map_none, Option.getD_none]

theorem presetPart_some {n : Int} (said : o.preset = some n) :
    (overrides o devices).presetPart = ofPreset (.number (.integer n)) := by
  simp only [Overrides.presetPart, overrides, said, Option.map_some, Option.getD_some]

theorem presetPart_error (refused : (overrides o devices).presetPart = .error f) :
    ∃ n, o.preset = some n ∧ Preset.ofSetting (.number (.integer n)) = .error f := by
  cases said : o.preset with
  | none =>
    rw [presetPart_none said] at refused
    cases refused
  | some n =>
    rw [presetPart_some said] at refused
    rcases bind_error_iff.mp refused with unknown | ⟨p, _, done⟩
    · exact ⟨n, rfl, unknown⟩
    · cases done

theorem deviceList_read (o : Options) (devices : List String) :
    ∃ entries, (overrides o devices).deviceList = .ok entries :=
  Overrides.deviceList_iff.mpr fun _ => ⟨_, rfl⟩

/-- The failures of overrides that are no defect of the deployment, with what brings each about. -/
inductive Escapes (c : Config) (o : Options) (devices present : List String) : Failure → Prop where
  /-- The serial text ends in a digit that is no decimal one. -/
  | digit (text : String) : o.serial = some text → EndsOddly text →
      Escapes c o devices present .notNumeric
  /-- The number is that of no preset, and too long for the message about it. -/
  | preset (n : Int) (part : List (String × Setting)) :
      (overrides o devices).serialPart = .ok part → o.preset = some n →
      10 ^ Text.maxDigits ≤ n.natAbs → Escapes c o devices present (.textless .digits)
  /-- All is accepted, but then the ports cannot be listed. -/
  | ports (f : Failure) (values : List (String × Setting)) :
      (overrides o devices).values = .ok values → values ≠ [] →
      validate (replaced c.settings values) = .ok () → Ports.sorted present = .error f →
      Escapes c o devices present f

theorem values_error (refused : (overrides o devices).values = .error f) :
    (∃ fault, f = .configuration fault) ∨ Escapes c o devices present f := by
  obtain ⟨entries, read⟩ := deviceList_read o devices
  rcases Overrides.values_error_iff.mp refused with serial | ⟨part, serial, preset | ⟨_, _, list⟩⟩
  · obtain ⟨text, said, unread⟩ := serialPart_error serial
    rcases ofSerialText_error unread with fault | ⟨odd, rfl⟩
    · exact .inl fault
    · exact .inr (.digit text said odd)
  · obtain ⟨n, said, unknown⟩ := presetPart_error preset
    rcases Preset.ofSetting_integer unknown with fault | ⟨long, rfl⟩
    · exact .inl fault
    · exact .inr (.preset n part serial said long)
  · rw [read] at list
    cases list

theorem interval_said (o : Options) (devices : List String) :
    (overrides o devices).interval? = o.interval.map fun x => .number (.real x) := by
  cases said : o.interval <;> simp [Overrides.interval?, overrides, said]

theorem devices_said (o : Options) (devices : List String) :
    (overrides o devices).devices? = (Setting.list (devices.map .text)).given? := rfl

/-- What the command line says has the right type: the interval is a number, the devices a list. -/
theorem validate_setting (valid : Valid c.settings) (given : (overrides o devices).values = .ok values)
    (refused : validate (replaced c.settings values) = .error f) : ∃ fault, f = .setting fault := by
  have replaces := Overrides.values_replace given c.settings
  rcases validate_error refused with fault | interval | list
  · exact fault
  · rw [value_or replaces.interval, interval_said] at interval
    cases said : o.interval with
    | none =>
      rw [said, Option.map_none, Option.getD_none, valid.interval] at interval
      cases interval
    | some x =>
      rw [said] at interval
      cases interval
  · obtain ⟨entries, read, _⟩ := valid.devices
    rw [value_or replaces.devices, devices_said, Setting.given?] at list
    split at list
    · cases list
    · rw [Option.getD_none, read] at list
      cases list

/-! ## Refused or escaped -/

theorem override_error (valid : Valid c.settings)
    (failed : (c.override (overrides o devices) present).2 = .error f) :
    (∃ fault, f = .configuration fault) ∨ Escapes c o devices present f := by
  have does := override_does c (overrides o devices) present
  generalize c.override (overrides o devices) present = result at does failed
  cases does with
  | refused f refused =>
    cases failed
    exact values_error refused
  | nothing => cases failed
  | invalid values fault =>
    cases failed
    exact .inl ⟨_, rfl⟩
  | illTyped values f given refused other =>
    obtain ⟨fault, rfl⟩ := validate_setting valid given refused
    exact absurd rfl (other fault)
  | changes values given some_values accepted =>
    simp only [update] at failed
    split at failed
    · cases failed
    · rename_i f unlisted
      cases failed
      exact .inr (.ports f values given some_values accepted unlisted)

/-- What escapes does so in every case. -/
theorem Escapes.fails (escapes : Escapes c o devices present f) :
    (c.override (overrides o devices) present).2 = .error f := by
  cases escapes with
  | digit text said odd =>
    rw [override_unread (Overrides.values_error_iff.mpr (.inl (serialPart_odd said odd)))]
  | preset n part serial said long =>
    have unknown : (overrides o devices).presetPart = .error (.textless .digits) := by
      rw [presetPart_some said]
      exact bind_error_iff.mpr (.inl (Preset.ofSetting_long long))
    rw [override_unread (Overrides.values_error_iff.mpr (.inr ⟨part, serial, .inl unknown⟩))]
  | ports _ values given some_values accepted unlisted =>
    cases values with
    | nil => exact absurd rfl some_values
    | cons entry rest => simp only [override, given, accepted, update, unlisted]

theorem Escapes.not_configuration (escapes : Escapes c o devices present f) :
    f.isConfiguration = false := by
  cases escapes with
  | digit | preset => rfl
  | ports _ values given some_values accepted unlisted =>
    rw [Ports.sorted_error unlisted]
    rfl

end CommandLine

end MeterPolling
