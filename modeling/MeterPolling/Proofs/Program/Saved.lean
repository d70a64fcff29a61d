import MeterPolling.Proofs.Config.Devices
import MeterPolling.Proofs.Program.Operate
import MeterPolling.Proofs.Program.Refusal
/-!
What a start saves. The settings that are saved are valid, and they name a port that is present. That
their producers are known is checked no earlier than when the devices are polled, so that a name
which stops the program is saved all the same, and is read again at the next start.
-/
namespace MeterPolling

namespace Config

variable {format : Format} {file : File} {present : List String} {o : Overrides} {n : Notice}

/-- All that is reported of a file is that it cannot be used. -/
theorem readSettings_error (reported : n ∈ (readSettings format file).1) : n.level = .error := by
  unfold readSettings at reported
  split at reported
  · cases reported
  · cases List.mem_singleton.mp reported
    rfl
  · split at reported
    · cases reported
    · split at reported
      · cases reported
      · cases List.mem_singleton.mp reported
        rfl
      · dsimp only at reported
        split at reported
        · cases reported
        · cases List.mem_singleton.mp reported
          rfl
        · cases List.mem_singleton.mp reported
          rfl

theorem not_saved_of_load : .configurationSaved ∉ (load format file present).1 := by
  intro reported
  cases readSettings_error reported

theorem save_saved {c c' : Config} {file' : File} {notices : List Notice}
    {result : Except Failure Unit} (saves : c.save format file = (c', file', notices, result))
    (saved : .configurationSaved ∈ notices) :
    ∃ text, format.write c.settings = .ok text ∧
      (c', file', result) = ({ c with isUnsaved := false }, .ofText text, .ok ()) := by
  cases file with
  | blocked =>
    cases saves
    cases List.mem_singleton.mp saved
  | missing | content =>
    simp only [save] at saves
    split at saves
    · rename_i text written
      cases saves
      exact ⟨text, written, rfl⟩
    · cases saves
      cases saved

/-- A start that saves has prepared a configuration, and goes on with it as it was saved. -/
theorem prepare_saved (saved : .configurationSaved ∈ (prepare format file present o).notices) :
    ∃ c₀ c text, Prepared format file present o c₀ c ∧ format.write c.settings = .ok text ∧
      (prepare format file present o).file = .ofText text ∧
      (prepare format file present o).result = .ok { c with isUnsaved := false } := by
  have unreported : .configurationSaved ∉ (load format file present).1 := not_saved_of_load
  simp only [prepare] at saved ⊢
  cases loaded : (load format file present).2 with
  | error f =>
    simp only [loaded] at saved
    exact absurd saved unreported
  | ok c₀ =>
    simp only [loaded] at saved ⊢
    split at saved
    · exact absurd saved unreported
    · rename_i accepted
      obtain ⟨_, applied, port⟩ := bind_ok_iff.mp accepted
      have prepared : Prepared format file present o c₀ (c₀.override o present).1 :=
        ⟨loaded, by rw [← applied], port⟩
      generalize (c₀.override o present).1 = c at saved prepared accepted
      split at saved
      · rename_i unsaved
        rcases saves : c.save format file with ⟨c', file', notices, result⟩
        simp only [saves, unsaved, if_true] at saved ⊢
        obtain ⟨text, written, same⟩ :=
          save_saved saves ((List.mem_append.mp saved).resolve_left unreported)
        cases same
        exact ⟨c₀, c, text, prepared, written, rfl, rfl⟩
      · exact absurd saved unreported

theorem Prepared.valid {c₀ c : Config} (prepared : Prepared format file present o c₀ c) :
    Valid c.settings := by
  have valid := (load_valid prepared.loaded).override o present
  rwa [prepared.applied] at valid

theorem override_replaces {c : Config} (applied : (c.override o present).2 = .ok ()) :
    o.Replaces c.settings (c.override o present).1.settings := by
  have does := override_does c o present
  generalize c.override o present = result at does applied
  cases does with
  | refused | invalid | illTyped => cases applied
  | nothing given => exact Overrides.values_replace given c.settings
  | changes values given =>
    rw [update_settings]
    exact Overrides.values_replace given c.settings

end Config

namespace CommandLine

open Config

variable {format : Format} {file : File} {o : Options} {devices present : List String}
  {c₀ c : Config}

/-- Devices that are given on the command line are those of the settings. -/
theorem prepared_devices (prepared : Prepared format file present (overrides o devices) c₀ c)
    (some_devices : devices ≠ []) :
    elements (c.get "device_ids") = .ok (devices.map .text) := by
  have replaces := override_replaces (congrArg Prod.snd prepared.applied)
  have given : (Setting.list (devices.map .text)).given? = some (.list (devices.map .text)) := by
    simp [Setting.given?, Setting.isGiven, some_devices]
  have said := value_or replaces.devices
  rw [devices_said, given, prepared.applied] at said
  change elements (value c.settings "device_ids") = _
  rw [said]
  rfl

end CommandLine

namespace Program

open Config

variable {c : Config} {o : CommandLine.Options} {devices arguments : List String}
  {s : Surroundings} {r : Run} {f : Failure}

theorem Run.fail_file (r : Run) (f : Failure) : (r.fail f).file = r.file := by
  unfold fail
  split <;> rfl

theorem Run.fail_status (r : Run) (f : Failure) : (r.fail f).outcome.status? ≠ some 0 := by
  unfold fail
  split <;> nofun

theorem Run.conclude_file (r : Run) (ending : Ending) : (r.conclude ending).file = r.file := by
  cases ending with
  | broken f => exact r.fail_file f
  | done | cut => rfl

/-- There is no preset, or the port does not open, or there is work on it. -/
theorem operate_cases (c : Config) (o : CommandLine.Options) (s : Surroundings) (r : Run) :
    (∃ f, operate c o s r = r.fail f) ∨ (∃ link f, operate c o s r = (r.after link).fail f) ∨
      ∃ link work, work = (plan c o.scan link).run s.limit link ∧
        operate c o s r = (r.after work.1.closePort).conclude work.2 := by
  cases usable : c.preset with
  | error f => exact .inl ⟨f, by simp only [operate, usable]⟩
  | ok preset =>
    cases opening : (firstLink c o s r preset).openPort with
    | mk link result =>
      cases result with
      | error f => exact .inr (.inl ⟨link, f, operate_refused usable opening⟩)
      | ok done => exact .inr (.inr ⟨link, _, rfl, operate_opened usable opening⟩)

/-- The work on the port leaves the file alone. -/
theorem operate_file (c : Config) (o : CommandLine.Options) (s : Surroundings) (r : Run) :
    (operate c o s r).file = r.file := by
  rcases operate_cases c o s r with ⟨f, same⟩ | ⟨link, f, same⟩ | ⟨link, work, _, same⟩
  · rw [same, Run.fail_file]
  · rw [same, Run.fail_file]
    rfl
  · rw [same, Run.conclude_file]
    rfl

/-- Without its devices the program does not poll, and its status tells that it failed. -/
theorem operate_status (unresolved : c.devices .shipped = .error f) (polls : o.scan = false) :
    (operate c o s r).outcome.status? ≠ some 0 := by
  rcases operate_cases c o s r with ⟨f, same⟩ | ⟨link, f, same⟩ | ⟨link, work, rfl, same⟩
  · rw [same]
    exact r.fail_status f
  · rw [same]
    exact Run.fail_status _ f
  · have planned : plan c o.scan link = .failing f := by
      simp only [plan, polls, unresolved, Bool.false_eq_true, if_false]
    rw [same, planned]
    exact Run.fail_status _ f

theorem run_prepared (read : CommandLine.read arguments = .ok (o, devices))
    (prepared : (prepare s.format s.file s.ports (CommandLine.overrides o devices)).result = .ok c) :
    ∃ r : Run, run arguments s = operate c o s r ∧
      r.file = (prepare s.format s.file s.ports (CommandLine.overrides o devices)).file := by
  simp only [run, read, prepared]
  generalize prepare s.format s.file s.ports (CommandLine.overrides o devices) = startup
  obtain ⟨journal, noted⟩ := Run.foldl_note startup.notices
    ⟨.finished, startup.file, none, .zero, [], if o.debug then .debug else .info⟩
  rw [noted]
  exact ⟨_, rfl, rfl⟩

structure Saves (s : Surroundings) (startup : Startup) (c : Config) (entries : List Setting) :
    Prop where
  result : startup.result = .ok c
  written : ∃ text, s.format.write c.settings = .ok text ∧ startup.file = .ofText text
  valid : Valid c.settings
  entries : elements (c.get "device_ids") = .ok entries

/-- All of a configuration that is saved can be used, but for producers that are not known. If there
are any, the program stops, and what it saved is kept. -/
theorem saved_resolves_unless_unknown (read : CommandLine.read arguments = .ok (o, devices))
    (saved : .configurationSaved ∈
      (prepare s.format s.file s.ports (CommandLine.overrides o devices)).notices) :
    ∃ c entries,
      Saves s (prepare s.format s.file s.ports (CommandLine.overrides o devices)) c entries ∧
      (devices ≠ [] → entries = devices.map .text) ∧
      (∀ registry,
        (∃ polled, c.devices registry = .ok polled ∧
          List.Forall₂ (Resolves registry (c.get "default_producer")) entries polled) ∨
        ∃ f, c.devices registry = .error f ∧
          ∃ entry ∈ entries, Unresolved registry (c.get "default_producer") entry f) ∧
      (run arguments s).file =
        (prepare s.format s.file s.ports (CommandLine.overrides o devices)).file ∧
      (o.scan = false → ∀ f, c.devices .shipped = .error f →
        (run arguments s).outcome.status? ≠ some 0) := by
  obtain ⟨c₀, c, text, prepared, written, file, result⟩ := prepare_saved saved
  have valid : Valid c.settings := prepared.valid
  obtain ⟨entries, found, accepted⟩ := valid.devices
  obtain ⟨r, operates, same⟩ := run_prepared read result
  refine ⟨_, entries, ⟨result, ⟨text, written, file⟩, valid, found⟩, ?_,
    devices_or_unresolved found accepted, ?_, ?_⟩
  · intro some_devices
    have listed := CommandLine.prepared_devices prepared some_devices
    exact Except.ok.inj (found.symm.trans listed)
  · rw [operates, operate_file, same]
  · intro polls f unresolved
    rw [operates]
    exact operate_status unresolved polls

def misnamed : List String := ["-c", "COM3", "5:abb"]

def misnamedOptions : CommandLine.Options := { CommandLine.Options.initial with port := some "COM3" }

def misnamedConfig : Config where
  settings := replaced defaults [("com_port", .text "COM3"), ("device_ids", .list [.text "5:abb"])]
  isUsable := true
  isUnsaved := false

theorem misnamed_read : CommandLine.read misnamed = .ok (misnamedOptions, ["5:abb"]) := by
  decide +kernel

def misnamedStart : Startup :=
  prepare bare.format bare.file bare.ports (CommandLine.overrides misnamedOptions ["5:abb"])

theorem misnamedStart_result : misnamedStart.result = .ok misnamedConfig := by
  decide +kernel

theorem misnamedStart_saved : .configurationSaved ∈ misnamedStart.notices := by
  have reported : misnamedStart.notices = [.configurationSaved] := by decide +kernel
  rw [reported]
  exact List.mem_singleton.mpr rfl

theorem misnamed_unresolved : misnamedConfig.devices .shipped =
    .error (.configuration (.unknownProducer "abb" ["dzg", "janitza", "sdm"])) := by
  rw [Registry.shipped_eq]
  decide +kernel

theorem misnamed_is_kept :
    CommandLine.read misnamed = .ok (misnamedOptions, ["5:abb"]) ∧
      .configurationSaved ∈ misnamedStart.notices ∧
      (∃ text, bare.format.write misnamedConfig.settings = .ok text ∧
        (run misnamed bare).file = .ofText text) ∧
      (run misnamed bare).outcome.status? ≠ some 0 := by
  obtain ⟨c, entries, saves, _, _, file, stops⟩ :=
    saved_resolves_unless_unknown misnamed_read misnamedStart_saved
  have same : misnamedConfig = c := Except.ok.inj (misnamedStart_result.symm.trans saves.result)
  subst same
  obtain ⟨text, written, kept⟩ := saves.written
  exact ⟨misnamed_read, misnamedStart_saved, ⟨text, written, file.trans kept⟩,
    stops rfl _ misnamed_unresolved⟩

/-- What is saved does not always resolve. -/
theorem misnamed_does_not_resolve :
    ¬ ∀ (arguments : List String) (s : Surroundings) (o : CommandLine.Options)
      (devices : List String) (c : Config), CommandLine.read arguments = .ok (o, devices) →
      .configurationSaved ∈
        (prepare s.format s.file s.ports (CommandLine.overrides o devices)).notices →
      (prepare s.format s.file s.ports (CommandLine.overrides o devices)).result = .ok c →
      ∃ polled, c.devices .shipped = .ok polled := by
  intro all
  obtain ⟨polled, resolved⟩ := all misnamed bare misnamedOptions ["5:abb"] misnamedConfig
    misnamed_read misnamedStart_saved misnamedStart_result
  rw [misnamed_unresolved] at resolved
  cases resolved

end Program

end MeterPolling
