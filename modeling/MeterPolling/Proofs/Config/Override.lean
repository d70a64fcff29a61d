import MeterPolling.Proofs.Config.Validity
import MeterPolling.Proofs.Numeral
/-!
Overrides take effect together or not at all. They are accepted just when all of them can be read and
the settings are valid with them. Then they replace the settings that they speak of and nothing else,
a preset standing above the baud rate and the serial text; otherwise nothing changes.
-/
namespace MeterPolling

namespace Setting

/-- The value, if it counts as given. -/
def given? (x : Setting) : Option Setting := if x.isGiven then some x else none

end Setting

namespace Config

variable {settings values part old new new' : List (String × Setting)} {c : Config}
  {o : Overrides} {present ports : List String} {key : String}

/-! ## Replacing in two steps -/

theorem replaced_nodup (distinct : (settings.map Prod.fst).Nodup)
    (values : List (String × Setting)) : ((replaced settings values).map Prod.fst).Nodup := by
  unfold replaced
  induction values generalizing settings with
  | nil => exact distinct
  | cons entry rest ih => exact ih (Setting.putEntry_nodup entry.1 entry.2 distinct)

/-- Values may be collected first and put into the settings afterwards. -/
theorem lookup_collected (settings values : List (String × Setting)) (key : String) :
    (replaced settings (replaced [] values)).lookup key =
      (values.reverse.lookup key).or (settings.lookup key) := by
  have empty : ([].map (Prod.fst : String × Setting → String)).Nodup := List.nodup_nil
  have distinct : ((replaced [] values).map Prod.fst).Nodup := replaced_nodup empty values
  rw [lookup_replaced, Setting.lookup_reverse distinct, lookup_replaced, List.lookup_nil,
    Option.or_none]

namespace Overrides

/-! ## What is said of a setting -/

def preset? (o : Overrides) : Option Preset := (Preset.ofSetting o.preset).toOption

def serialCharacter? (o : Overrides) (place : Nat) : Option Char :=
  match o.serial with
  | .text text => (Text.upper text).toList[place]?
  | _ => none

def serialParity? (o : Overrides) : Option Setting :=
  (o.serialCharacter? 1).map fun letter => .text (String.singleton letter)

def serialStop? (o : Overrides) : Option Setting :=
  ((o.serialCharacter? 2).bind Text.decimalValue?).map fun (n : Nat) => .number (.integer n)

def baud? (o : Overrides) : Option Setting :=
  (o.preset?.map fun p => .number (.integer p.baud)).or o.baud.given?

def parity? (o : Overrides) : Option Setting :=
  (o.preset?.map fun p => .text p.parity).or o.serialParity?

def stop? (o : Overrides) : Option Setting :=
  (o.preset?.map fun _ => .number (.integer 1)).or o.serialStop?

def interval? (o : Overrides) : Option Setting :=
  match o.interval with
  | .absent => none
  | x => some x

def devices? (o : Overrides) : Option Setting :=
  (elements o.devices).toOption.bind fun devices => (Setting.list devices).given?

/-- The settings of which overrides can speak. -/
def keys : List String := ["com_port", "baud", "parity", "stop", "poll_interval", "device_ids"]

/-- The new settings are the old ones, with those replaced of which the overrides speak. -/
structure Replaces (o : Overrides) (old new : List (String × Setting)) : Prop where
  port : new.lookup "com_port" = o.port.given?.or (old.lookup "com_port")
  baud : new.lookup "baud" = o.baud?.or (old.lookup "baud")
  parity : new.lookup "parity" = o.parity?.or (old.lookup "parity")
  stop : new.lookup "stop" = o.stop?.or (old.lookup "stop")
  interval : new.lookup "poll_interval" = o.interval?.or (old.lookup "poll_interval")
  devices : new.lookup "device_ids" = o.devices?.or (old.lookup "device_ids")
  others : ∀ key ∉ keys, new.lookup key = old.lookup key

structure Readable (o : Overrides) : Prop where
  serial : o.serial.isGiven = true → ∃ text parity stop n, o.serial = .text text ∧
    (Text.upper text).toList = ['8', parity, stop] ∧ Text.decimalValue? stop = some n
  preset : o.preset ≠ .absent → ∃ p, Preset.ofSetting o.preset = .ok p
  devices : o.devices.isGiven = true → ∃ devices, elements o.devices = .ok devices

theorem Replaces.unique (one : o.Replaces old new) (other : o.Replaces old new') (key : String) :
    new.lookup key = new'.lookup key := by
  by_cases spoken : key ∈ keys
  · simp only [keys, List.mem_cons, List.not_mem_nil, or_false] at spoken
    rcases spoken with rfl | rfl | rfl | rfl | rfl | rfl
    · rw [one.port, other.port]
    · rw [one.baud, other.baud]
    · rw [one.parity, other.parity]
    · rw [one.stop, other.stop]
    · rw [one.interval, other.interval]
    · rw [one.devices, other.devices]
  · rw [one.others key spoken, other.others key spoken]

/-! ## Reading the parts -/

theorem ofSerialText_formed {text : String} {parity stop : Char}
    (letters : (Text.upper text).toList = ['8', parity, stop]) (digit : Text.isDigit stop = true) :
    ofSerialText text = match Text.decimalValue? stop with
      | some n =>
        .ok [("stop", .number (.integer n)), ("parity", .text (String.singleton parity))]
      | none => .error .notNumeric := by
  simp only [ofSerialText, letters, digit, Text.Numeral.readInt?_digit digit]
  cases Text.decimalValue? stop <;> rfl

theorem ofSerialText_cases (text : String) :
    (∃ parity stop, (Text.upper text).toList = ['8', parity, stop] ∧ Text.isDigit stop = true) ∨
      ofSerialText text = .error (.configuration (.serialText text)) := by
  unfold ofSerialText
  split
  · rename_i parity stop letters
    cases digit : Text.isDigit stop with
    | true => exact .inl ⟨parity, stop, letters, digit⟩
    | false => exact .inr rfl
  · exact .inr rfl

/-- A serial text that is read has eight data bits, a parity and a decimal digit. -/
theorem ofSerialText_iff {text : String} : ofSerialText text = .ok part ↔
    ∃ parity stop n, (Text.upper text).toList = ['8', parity, stop] ∧
      Text.decimalValue? stop = some n ∧
      part = [("stop", .number (.integer n)), ("parity", .text (String.singleton parity))] := by
  constructor
  · intro read
    rcases ofSerialText_cases text with ⟨parity, stop, letters, digit⟩ | unformed
    · rw [ofSerialText_formed letters digit] at read
      cases decimal : Text.decimalValue? stop with
      | none =>
        rw [decimal] at read
        cases read
      | some n =>
        rw [decimal] at read
        cases read
        exact ⟨parity, stop, n, letters, decimal, rfl⟩
    · rw [unformed] at read
      cases read
  · rintro ⟨parity, stop, n, letters, decimal, rfl⟩
    have digit : Text.isDigit stop = true := by simp [Text.isDigit, decimal]
    rw [ofSerialText_formed letters digit, decimal]

theorem serialPart_lookup (read : o.serialPart = .ok part) (key : String) :
    part.reverse.lookup key =
      if key = "parity" then o.serialParity? else if key = "stop" then o.serialStop? else none := by
  unfold serialParity? serialStop?
  cases said : o.serial with
  | text text =>
    simp only [serialPart, serialCharacter?, said] at read ⊢
    split at read
    · rename_i empty
      cases read
      obtain rfl := String.isEmpty_iff.mp empty
      simp [Text.upper]
    · obtain ⟨parity, stop, n, letters, decimal, rfl⟩ := ofSerialText_iff.mp read
      simp only [letters, List.reverse_cons, List.reverse_nil, List.nil_append, List.singleton_append,
        List.getElem?_cons_succ, List.getElem?_cons_zero, Option.map_some, Option.bind_some, decimal,
        Setting.lookup_entry, List.lookup_nil]
  | _ =>
    simp only [serialPart, serialCharacter?, said] at read ⊢
    split at read
    · cases read
    · cases read
      simp

theorem presetPart_asked (asked : o.preset ≠ .absent) : o.presetPart = ofPreset o.preset := by
  unfold presetPart
  split
  · exact absurd ‹_› asked
  · rfl

theorem presetPart_lookup (read : o.presetPart = .ok part) (key : String) :
    part.reverse.lookup key =
      if key = "stop" then o.preset?.map fun _ => .number (.integer 1)
      else if key = "parity" then o.preset?.map fun p => .text p.parity
      else if key = "baud" then o.preset?.map fun p => .number (.integer p.baud)
      else none := by
  by_cases absent : o.preset = .absent
  · have unknown : o.preset? = none := by
      rw [preset?, absent]
      rfl
    simp only [presetPart, absent] at read
    cases read
    simp [unknown]
  · obtain ⟨p, found, made⟩ := bind_ok_iff.mp ((presetPart_asked absent).symm.trans read)
    have known : o.preset? = some p := by rw [preset?, found, Except.toOption]
    cases made
    rw [known]
    simp only [List.reverse_cons, List.reverse_nil, List.nil_append, List.cons_append,
      Option.map_some, Setting.lookup_entry, List.lookup_nil]

theorem intervalPart_lookup (o : Overrides) (key : String) :
    o.intervalPart.reverse.lookup key = if key = "poll_interval" then o.interval? else none := by
  unfold intervalPart interval?
  cases o.interval with
  | absent => exact (ite_self _).symm
  | _ => exact Setting.lookup_entry _ _ [] key

theorem given_lookup (known key : String) (x : Setting) :
    (given known x).reverse.lookup key = if key = known then x.given? else none := by
  unfold given Setting.given?
  split
  · exact Setting.lookup_entry known x [] key
  · simp

theorem deviceList_given {devices : List Setting} (read : o.deviceList = .ok devices) :
    (Setting.list devices).given? = o.devices? := by
  unfold deviceList at read
  unfold devices?
  split at read
  · rw [read]
    rfl
  · rename_i nothing
    cases read
    cases said : o.devices with
    | list devices => simp_all [Setting.isGiven, elements, Except.toOption, Setting.given?]
    | text text => simp_all [Setting.isGiven, elements, Except.toOption, Setting.given?]
    | table entries => simp_all [Setting.isGiven, elements, Except.toOption, Setting.given?]
    | _ => rfl

/-! ## All parts together -/

/-- Overrides give values when each part is read, and these are the values of all parts in order. -/
theorem values_ok_iff : o.values = .ok values ↔ ∃ serial preset devices,
    o.serialPart = .ok serial ∧ o.presetPart = .ok preset ∧ o.deviceList = .ok devices ∧
      replaced [] (given "com_port" o.port ++ given "baud" o.baud ++ serial ++ preset ++
        o.intervalPart ++ given "device_ids" (.list devices)) = values := by
  unfold Overrides.values
  constructor
  · intro read
    obtain ⟨serial, serialRead, read⟩ := bind_ok_iff.mp read
    obtain ⟨preset, presetRead, read⟩ := bind_ok_iff.mp read
    obtain ⟨devices, devicesRead, read⟩ := bind_ok_iff.mp read
    exact ⟨serial, preset, devices, serialRead, presetRead, devicesRead, Except.ok.inj read⟩
  · rintro ⟨serial, preset, devices, serialRead, presetRead, devicesRead, rfl⟩
    rw [serialRead, presetRead, devicesRead]
    rfl

/-- The values that overrides give replace the settings of which they speak. -/
theorem values_replace (given : o.values = .ok values) (settings : List (String × Setting)) :
    o.Replaces settings (replaced settings values) := by
  obtain ⟨serial, preset, devices, serialRead, presetRead, devicesRead, rfl⟩ :=
    values_ok_iff.mp given
  -- Later parts come first in a look-up, so that the preset wins over what stands before it.
  constructor
  case others =>
    intro key other
    simp only [keys, List.mem_cons, List.not_mem_nil, or_false, not_or] at other
    obtain ⟨port, baud, parity, stop, interval, device⟩ := other
    simp only [lookup_collected, List.reverse_append, List.lookup_append, given_lookup,
      intervalPart_lookup, presetPart_lookup presetRead, serialPart_lookup serialRead, port, baud,
      parity, stop, interval, device, if_false, Option.none_or]
  all_goals
    simp [lookup_collected, List.lookup_append, given_lookup, intervalPart_lookup,
      presetPart_lookup presetRead, serialPart_lookup serialRead, deviceList_given devicesRead,
      baud?, parity?, stop?]

theorem serialPart_iff : (∃ part, o.serialPart = .ok part) ↔
    (o.serial.isGiven = true → ∃ text parity stop n, o.serial = .text text ∧
      (Text.upper text).toList = ['8', parity, stop] ∧ Text.decimalValue? stop = some n) := by
  cases said : o.serial with
  | text text =>
    simp only [serialPart, said, Setting.isGiven, Bool.not_eq_true', Setting.text.injEq]
    cases empty : text.isEmpty with
    | true => simp
    | false =>
      constructor
      · rintro ⟨part, read⟩ _
        obtain ⟨parity, stop, n, letters, decimal, _⟩ := ofSerialText_iff.mp read
        exact ⟨text, parity, stop, n, rfl, letters, decimal⟩
      · intro readable
        obtain ⟨_, parity, stop, n, rfl, letters, decimal⟩ := readable rfl
        exact ⟨_, ofSerialText_iff.mpr ⟨parity, stop, n, letters, decimal, rfl⟩⟩
  | _ =>
    simp only [serialPart, said]
    split
    · rename_i given
      simp [given]
    · rename_i nothing
      simp [nothing]

theorem presetPart_iff : (∃ part, o.presetPart = .ok part) ↔
    (o.preset ≠ .absent → ∃ p, Preset.ofSetting o.preset = .ok p) := by
  constructor
  · rintro ⟨part, read⟩ asked
    obtain ⟨p, found, _⟩ := bind_ok_iff.mp ((presetPart_asked asked).symm.trans read)
    exact ⟨p, found⟩
  · intro readable
    by_cases absent : o.preset = .absent
    · exact ⟨[], by rw [presetPart, absent]⟩
    · obtain ⟨p, found⟩ := readable absent
      exact ⟨_, (presetPart_asked absent).trans (bind_ok_iff.mpr ⟨p, found, rfl⟩)⟩

theorem deviceList_iff : (∃ devices, o.deviceList = .ok devices) ↔
    (o.devices.isGiven = true → ∃ devices, elements o.devices = .ok devices) := by
  unfold deviceList
  split
  · rename_i given
    simp [given]
  · rename_i nothing
    simp [nothing]

/-- Overrides give values just when they can be read. -/
theorem values_iff : (∃ values, o.values = .ok values) ↔ o.Readable := by
  constructor
  · rintro ⟨values, given⟩
    obtain ⟨serial, preset, devices, serialRead, presetRead, devicesRead, _⟩ :=
      values_ok_iff.mp given
    exact ⟨serialPart_iff.mp ⟨serial, serialRead⟩, presetPart_iff.mp ⟨preset, presetRead⟩,
      deviceList_iff.mp ⟨devices, devicesRead⟩⟩
  · intro readable
    obtain ⟨serial, serialRead⟩ := serialPart_iff.mpr readable.serial
    obtain ⟨preset, presetRead⟩ := presetPart_iff.mpr readable.preset
    obtain ⟨devices, devicesRead⟩ := deviceList_iff.mpr readable.devices
    exact ⟨_, values_ok_iff.mpr ⟨serial, preset, devices, serialRead, presetRead, devicesRead, rfl⟩⟩

end Overrides

/-! ## All together or not at all -/

theorem Valid.congr (valid : Valid new) (same : ∀ key, new.lookup key = new'.lookup key) :
    Valid new' := by
  have values (key : String) : value new key = value new' key := by rw [value, value, same key]
  obtain ⟨⟨baud, stop, parity, interval⟩, devices⟩ := valid
  simp only [values] at baud stop parity interval devices
  exact ⟨⟨baud, stop, parity, interval⟩, devices⟩

/-- What overrides come to together with the settings is checked as a whole. -/
theorem Overrides.validated (given : o.values = .ok values)
    (accepted : ∃ new, o.Replaces settings new ∧ Valid new) :
    validate (replaced settings values) = .ok () := by
  obtain ⟨new, replaces, valid⟩ := accepted
  exact validate_iff.mpr (valid.congr (replaces.unique (Overrides.values_replace given settings)))

structure Overrides.Atomic (o : Overrides) (c : Config) (result : Config × Except Failure Unit) :
    Prop where
  /-- When they fail, for whatever reason, all of the configuration is as it was. -/
  kept : ∀ f, result.2 = .error f → result.1 = c
  /-- Otherwise just the settings of which they speak are replaced. -/
  replaced : result.2 = .ok () → o.Replaces c.settings result.1.settings
  /-- They are accepted just when all of them can be read and the settings are valid with them. -/
  accepted : result.2 = .ok () ↔ o.Readable ∧ ∃ new, o.Replaces c.settings new ∧ Valid new

theorem Overrides.Atomic.refuse {f : Failure}
    (unaccepted : ¬ (o.Readable ∧ ∃ new, o.Replaces c.settings new ∧ Valid new)) :
    o.Atomic c (c, .error f) := by
  constructor
  · exact fun _ _ => rfl
  · intro accepted
    cases accepted
  · constructor
    · intro accepted
      cases accepted
    · intro accepted
      exact absurd accepted unaccepted

theorem Overrides.Atomic.accept {c' : Config} (readable : o.Readable)
    (replaces : o.Replaces c.settings c'.settings) (valid : Valid c'.settings) :
    o.Atomic c (c', .ok ()) := by
  constructor
  · intro f failed
    cases failed
  · exact fun _ => replaces
  · exact ⟨fun _ => ⟨readable, _, replaces, valid⟩, fun _ => rfl⟩

/-- Where the ports can be listed, overrides of a valid configuration take effect together or not at
all. -/
theorem override_is_atomic (valid : Valid c.settings) (listed : Ports.sorted present = .ok ports) :
    o.Atomic c (c.override o present) := by
  have does := override_does c o present
  generalize c.override o present = result at does
  cases does with
  | refused f refused =>
    apply Overrides.Atomic.refuse
    rintro ⟨readable, _⟩
    obtain ⟨values, given⟩ := Overrides.values_iff.mpr readable
    rw [refused] at given
    cases given
  | nothing given =>
    exact .accept (Overrides.values_iff.mp ⟨_, given⟩) (Overrides.values_replace given c.settings)
      valid
  | invalid values fault given refused =>
    apply Overrides.Atomic.refuse
    rintro ⟨_, accepted⟩
    rw [Overrides.validated given accepted] at refused
    cases refused
  | illTyped values f given refused other =>
    apply Overrides.Atomic.refuse
    rintro ⟨_, accepted⟩
    rw [Overrides.validated given accepted] at refused
    cases refused
  | changes values given some_values accepted =>
    have updated : c.update values present = ((c.update values present).1, .ok ()) := by
      simp only [update, listed]
    have settings := update_settings c values present
    rw [updated]
    apply Overrides.Atomic.accept (Overrides.values_iff.mp ⟨_, given⟩)
    · rw [settings]
      exact Overrides.values_replace given c.settings
    · rw [settings]
      exact validate_iff.mp accepted

def unset : Config := ⟨defaults, false, false⟩

theorem unset_loads : (load .toml .missing ["COM3"]).2 = .ok unset := by
  have listed : Ports.sorted ["COM3"] = .ok ["COM3"] := by decide +kernel
  have absent : isPresent (value defaults "com_port") ["COM3"] = false := by decide
  simp only [load, readSettings, Except.bind, ofSettings, listed, bind, absent]
  rfl

/-- As `fasterEven`, but the serial text, which the preset stands above, ends in a superscript. -/
def oddlyEven : Overrides := { fasterEven with serial := .text "8n²" }

theorem faster_even_is_atomic :
    Valid unset.settings ∧ Ports.sorted ["COM3"] = .ok ["COM3"] ∧
      fasterEven.Replaces unset.settings (unset.override fasterEven ["COM3"]).1.settings ∧
      (unset.override oddlyEven ["COM3"]).2 = .error .notNumeric ∧
      (unset.override oddlyEven ["COM3"]).1 = unset := by
  have listed : Ports.sorted ["COM3"] = .ok ["COM3"] := by decide +kernel
  have accepted : (unset.override fasterEven ["COM3"]).2 = .ok () := by decide +kernel
  have refused : (unset.override oddlyEven ["COM3"]).2 = .error .notNumeric := by decide +kernel
  have accepting := override_is_atomic (c := unset) (o := fasterEven) defaults_valid listed
  have refusing := override_is_atomic (c := unset) (o := oddlyEven) defaults_valid listed
  exact ⟨defaults_valid, listed, accepting.replaced accepted, refused, refusing.kept _ refused⟩

end Config

end MeterPolling
