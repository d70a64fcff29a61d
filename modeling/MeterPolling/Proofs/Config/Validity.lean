import MeterPolling.Proofs.Config.Change
/-!
Valid settings. Whatever a file says, and whatever overrides come after it, the settings pass
validation at all times: they are the defaults, or what was read, or what was changed, and the latter
two were checked as a whole. Valid settings name one of the presets.
-/
namespace MeterPolling

namespace Config

/-- What is asked of settings, the devices apart. Numbers are compared by value, so that a rate may be
9600.0. -/
structure ValidApart (settings : List (String × Setting)) : Prop where
  baud : ∃ rate ∈ ([2400, 9600, 19200] : List Nat),
    (Setting.number (.integer rate)).same (value settings "baud") = true
  stop : (Setting.number (.integer 1)).same (value settings "stop") = true
  parity : value settings "parity" = .text "N" ∨ value settings "parity" = .text "E"
  interval : isNotPositive (value settings "poll_interval") = .ok false

structure Valid (settings : List (String × Setting)) : Prop extends ValidApart settings where
  devices : ∃ entries, elements (value settings "device_ids") = .ok entries ∧
    ∀ entry ∈ entries, ∃ device, parseDevice entry (value settings "default_producer") = .ok device

variable {settings values : List (String × Setting)} {c c' : Config} {o : Overrides}
  {format : Format} {file : File} {present : List String}

/-! ## Validation -/

/-- A check stands before what follows it. -/
theorem check_iff {fault : String → SettingFault} {x : Setting} {bad : Bool}
    {next : Unit → Except Failure Unit} :
    (if bad = true then (refuse fault x >>= next) else next ()) = .ok () ↔
      bad = false ∧ next () = .ok () := by
  cases bad with
  | true => simp [refuse, bind, Except.bind]
  | false => simp

theorem checkEach_iff (fallback : Setting) (entries : List Setting) :
    (forIn entries PUnit.unit fun entry _ =>
      match parseDevice entry fallback with
      | .ok _ => pure (ForInStep.yield PUnit.unit)
      | .error fault => do
        throw (Failure.setting fault)
        pure (ForInStep.yield PUnit.unit) : Except Failure PUnit) = .ok () ↔
      ∀ entry ∈ entries, ∃ device, parseDevice entry fallback = .ok device := by
  induction entries with
  | nil => simp [pure, Except.pure]
  | cons entry rest ih =>
    rw [List.forIn_cons]
    cases parsed : parseDevice entry fallback with
    | error fault => simp [parsed, throw, throwThe, MonadExceptOf.throw, bind, Except.bind]
    | ok device =>
      simp only [parsed, List.mem_cons, forall_eq_or_imp]
      simpa [parsed] using ih

theorem isParity_iff {x : Setting} :
    (parities.any fun p => (Setting.text p).same x) = true ↔ x = .text "N" ∨ x = .text "E" := by
  rw [List.any_eq_true]
  simp only [parities, List.mem_cons, List.not_mem_nil, or_false, exists_eq_or_imp, exists_eq_left,
    Setting.same_text_iff]

/-- Validation accepts just the valid settings. -/
theorem validate_iff : validate settings = .ok () ↔ Valid settings := by
  have loop := checkEach_iff (value settings "default_producer")
  simp only [validate, check_iff, bind_ok_iff, Bool.not_eq_false', isParity_iff]
  constructor
  · rintro ⟨baud, stop, parity, positive, interval, checked, entries, elements, _, accepted, _⟩
    exact ⟨⟨List.any_eq_true.mp baud, stop, parity, checked ▸ interval⟩, entries, elements,
      (loop entries).mp accepted⟩
  · rintro ⟨⟨baud, stop, parity, interval⟩, entries, elements, accepted⟩
    exact ⟨List.any_eq_true.mpr baud, stop, parity, false, interval, rfl, entries, elements, (),
      (loop entries).mpr accepted, rfl⟩

theorem defaults_valid : Valid defaults := by
  refine ⟨⟨?baud, ?stop, ?parity, ?interval⟩, ?devices⟩
  case baud => exact ⟨9600, by simp, by decide +kernel⟩
  case stop => decide +kernel
  case parity => exact .inl rfl
  case interval =>
    have positive : (Number.real (.ofQuotient false 5 1)).atMost (.integer 0) = false := by
      decide +kernel
    exact congrArg Except.ok positive
  case devices => exact ⟨[], rfl, by simp⟩

/-! ## Presets -/

theorem upper_parity {x : Setting} (parity : x = .text "N" ∨ x = .text "E") :
    ∃ letter, x = .text letter ∧ Text.upper letter = letter ∧ letter ∈ parities := by
  rcases parity with rfl | rfl
  · exact ⟨"N", rfl, by decide +kernel, by decide⟩
  · exact ⟨"E", rfl, by decide +kernel, by decide⟩

/-- There is a preset for each of the rates with each of the parities. -/
theorem exists_preset : ∀ rate ∈ baudRates, ∀ letter ∈ parities,
    ∃ p ∈ Preset.all, p.baud = rate ∧ p.parity = letter := by
  decide

/-- Valid settings name the preset with just their baud rate and parity. -/
theorem Valid.preset (valid : Valid c.settings) :
    ∃ p, c.preset = .ok p ∧ (Setting.number (.integer p.baud)).same (c.get "baud") = true ∧
      c.get "parity" = .text p.parity := by
  obtain ⟨rate, rates, same⟩ := valid.baud
  obtain ⟨letter, parity, upper, letters⟩ := upper_parity valid.parity
  simp only [Config.preset, get, parity, Preset.ofSerial, upper]
  split
  · rename_i p found
    have agrees := List.find?_some found
    simp only [Bool.and_eq_true, beq_iff_eq] at agrees
    exact ⟨p, rfl, agrees.1, by rw [agrees.2]⟩
  · rename_i unfound
    -- The table of presets has every pair of a valid rate and a valid parity.
    obtain ⟨p, member, rfl, rfl⟩ := exists_preset rate rates letter letters
    exact absurd same (by simpa using List.find?_eq_none.mp unfound p member)

/-! ## Loading and changing -/

theorem readSettings_valid (read : (readSettings format file).2 = .ok settings) : Valid settings := by
  have reads := readSettings_reads format file
  generalize readSettings format file = result at reads read
  cases reads with
  | kept notices =>
    cases read
    exact defaults_valid
  | failed f => cases read
  | accepted loaded accepted =>
    cases read
    exact validate_iff.mp accepted

theorem load_valid (loaded : (load format file present).2 = .ok c) : Valid c.settings := by
  obtain ⟨ports, read, _⟩ := load_ok loaded
  exact readSettings_valid read

theorem Valid.override (valid : Valid c.settings) (o : Overrides) (present : List String) :
    Valid (c.override o present).1.settings := by
  rcases override_settings c o present with same | ⟨values, accepted, changed⟩
  · rwa [same]
  · rw [changed]
    exact validate_iff.mp accepted

/-- A configuration that comes from this file and from overrides after that, be they accepted or not,
whatever ports are present each time. -/
inductive Reached (format : Format) (file : File) : Config → Prop where
  | loaded {c : Config} {present : List String} : (load format file present).2 = .ok c →
      Reached format file c
  | overridden {c : Config} (o : Overrides) (present : List String) : Reached format file c →
      Reached format file (c.override o present).1

theorem Reached.valid (reached : Reached format file c) : Valid c.settings := by
  induction reached with
  | loaded loaded => exact load_valid loaded
  | overridden o present _ ih => exact ih.override o present

/-- At all times the settings are valid, and they name the preset with just their baud rate and
parity. -/
theorem Reached.stays_valid (reached : Reached format file c) :
    Valid c.settings ∧
      ∃ p, c.preset = .ok p ∧ (Setting.number (.integer p.baud)).same (c.get "baud") = true ∧
        c.get "parity" = .text p.parity :=
  ⟨reached.valid, reached.valid.preset⟩

/-- A file whose rate is a real number and whose stop bit is a flag. -/
def looseFile : File := .ofText "baud = 2400.0\nstop = true\nparity = \"E\"\n"

/-- A command line that names a port and a serial format that the preset after it overrides. -/
def fasterEven : Overrides :=
  ⟨.text "COM3", .absent, .text "8n2", .number 6, .number (.real (.ofQuotient false 1 2)), .absent⟩

theorem Reached.loose_file_stays_valid :
    ∃ c c', (load .toml looseFile ["COM3"]).2 = .ok c ∧ c' = (c.override fasterEven ["COM3"]).1 ∧
      Reached .toml looseFile c' ∧ Valid c'.settings ∧
        ∃ p, c'.preset = .ok p ∧ (Setting.number (.integer p.baud)).same (c'.get "baud") = true ∧
          c'.get "parity" = .text p.parity := by
  have isLoaded : (load .toml looseFile ["COM3"]).2.isOk = true := by decide +kernel
  cases loaded : (load .toml looseFile ["COM3"]).2 with
  | error f => simp [loaded, Except.isOk, Except.toBool] at isLoaded
  | ok c =>
    have reached := Reached.overridden fasterEven ["COM3"] (Reached.loaded loaded)
    exact ⟨c, _, rfl, rfl, reached, reached.stays_valid⟩

end Config

end MeterPolling
