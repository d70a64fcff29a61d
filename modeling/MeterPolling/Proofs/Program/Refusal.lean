import MeterPolling.Program
import MeterPolling.Proofs.Config.Refusal
/-!
What the program makes of overrides that fail. A defect of the deployment is the last thing that is
logged, and the status tells of it; what escapes ends the program as it is. The file stays as it was.
-/
namespace MeterPolling

namespace Program

open Config

variable {c : Config} {o : CommandLine.Options} {devices arguments : List String}
  {s : Surroundings} {f : Failure} {fault : ConfigurationFault}

namespace Run

theorem foldl_note (notices : List Notice) (r : Run) :
    ∃ journal, notices.foldl note r = { r with journal := journal } := by
  induction notices generalizing r with
  | nil => exact ⟨r.journal, rfl⟩
  | cons notice rest ih =>
    obtain ⟨journal, noted⟩ := ih (r.note notice)
    exact ⟨journal, noted⟩

def shown? (r : Run) (entry : Entry) : Option (Binary64 × Notice) :=
  match entry.event with
  | .noted n => if r.threshold.severity ≤ n.level.severity then some (entry.time, n) else none
  | _ => none

theorem logged_note (r : Run) (notice : Notice)
    (severe : r.threshold.severity ≤ notice.level.severity) :
    (r.note notice).logged = r.logged ++ [(r.now, notice)] := by
  have shown : r.shown? ⟨r.now, .noted notice⟩ = some (r.now, notice) := if_pos severe
  change (⟨r.now, .noted notice⟩ :: r.journal).reverse.filterMap r.shown? = _
  rw [List.reverse_cons, List.filterMap_append, List.filterMap_cons_some shown]
  rfl

end Run

/-- When overrides fail, nothing has happened since the file was read. -/
theorem run_fails (read : CommandLine.read arguments = .ok (o, devices))
    (loaded : (load s.format s.file s.ports).2 = .ok c)
    (failed : (c.override (CommandLine.overrides o devices) s.ports).2 = .error f) :
    ∃ r : Run, run arguments s = r.fail f ∧ r.file = s.file ∧ r.now = .zero ∧
      r.threshold.severity ≤ Level.critical.severity := by
  have prepared : ∃ notices, prepare s.format s.file s.ports (CommandLine.overrides o devices) =
      ⟨notices, s.file, .error f⟩ := by
    simp only [prepare, loaded, failed]
    exact ⟨_, rfl⟩
  obtain ⟨notices, prepared⟩ := prepared
  simp only [run, read, prepared]
  obtain ⟨journal, noted⟩ := Run.foldl_note notices
    ⟨.finished, s.file, none, .zero, [], if o.debug then .debug else .info⟩
  rw [noted]
  refine ⟨_, rfl, rfl, rfl, ?_⟩
  dsimp only
  split <;> decide

theorem run_reports (read : CommandLine.read arguments = .ok (o, devices))
    (loaded : (load s.format s.file s.ports).2 = .ok c)
    (refused : (c.override (CommandLine.overrides o devices) s.ports).2 =
      .error (.configuration fault)) :
    (run arguments s).outcome = .refused ∧ (run arguments s).file = s.file ∧
      ∃ earlier, (run arguments s).logged = earlier ++ [(.zero, .stopped fault.message)] := by
  obtain ⟨r, run_eq, file, now, severe⟩ := run_fails read loaded refused
  rw [run_eq]
  refine ⟨rfl, file, r.logged, ?_⟩
  rw [← now]
  exact r.logged_note (.stopped fault.message) severe

theorem run_escapes (read : CommandLine.read arguments = .ok (o, devices))
    (loaded : (load s.format s.file s.ports).2 = .ok c)
    (failed : (c.override (CommandLine.overrides o devices) s.ports).2 = .error f)
    (other : f.isConfiguration = false) :
    (run arguments s).outcome = .failed f ∧ (run arguments s).file = s.file := by
  obtain ⟨r, run_eq, file, _⟩ := run_fails read loaded failed
  rw [run_eq, Run.fail, other]
  exact ⟨rfl, file⟩

/-- Whatever is wrong with the overrides of a command line is reported as a defect of the deployment,
and the program ends with a message and with status one, unless it escapes. What escapes does so in
every case, and ends the program as it is. -/
theorem overrides_are_reported_or_escape (valid : Valid c.settings) (o : CommandLine.Options)
    (devices present : List String) :
    (∀ f, (c.override (CommandLine.overrides o devices) present).2 = .error f →
        (∃ fault, f = .configuration fault) ∨ CommandLine.Escapes c o devices present f) ∧
      (∀ f, CommandLine.Escapes c o devices present f →
        (c.override (CommandLine.overrides o devices) present).2 = .error f ∧
          f.isConfiguration = false) ∧
      ∀ arguments s, CommandLine.read arguments = .ok (o, devices) → s.ports = present →
        (load s.format s.file s.ports).2 = .ok c →
          (∀ fault, (c.override (CommandLine.overrides o devices) present).2 =
              .error (.configuration fault) →
            (run arguments s).outcome.status? = some 1 ∧ (run arguments s).file = s.file ∧
              ∃ earlier,
                (run arguments s).logged = earlier ++ [(.zero, .stopped fault.message)]) ∧
          ∀ f, CommandLine.Escapes c o devices present f →
            (run arguments s).outcome = .failed f ∧ (run arguments s).file = s.file := by
  refine ⟨fun f failed => CommandLine.override_error valid failed,
    fun f escapes => ⟨escapes.fails, escapes.not_configuration⟩, ?_⟩
  rintro arguments s read rfl loaded
  constructor
  · intro fault refused
    obtain ⟨outcome, file, logged⟩ := run_reports read loaded refused
    exact ⟨by rw [outcome]; rfl, file, logged⟩
  · intro f escapes
    exact run_escapes read loaded escapes.fails escapes.not_configuration

def bare : Surroundings :=
  ⟨.toml, .missing, ["COM3"], ⟨.connects true, true, fun _ _ => .silence⟩, 60⟩

def superscript : CommandLine.Options := { CommandLine.Options.initial with serial := some "8N²" }

def seventh : CommandLine.Options := { CommandLine.Options.initial with preset := some 7 }

theorem superscript_escapes_seventh_is_reported :
    Valid unset.settings ∧ (load bare.format bare.file bare.ports).2 = .ok unset ∧
      CommandLine.read ["-s", "8N²"] = .ok (superscript, []) ∧
      (run ["-s", "8N²"] bare).outcome = .failed .notNumeric ∧
      CommandLine.read ["-t", "7"] = .ok (seventh, []) ∧
      (run ["-t", "7"] bare).outcome.status? = some 1 := by
  have loaded : (load bare.format bare.file bare.ports).2 = .ok unset := unset_loads
  have superscriptRead : CommandLine.read ["-s", "8N²"] = .ok (superscript, []) := by decide +kernel
  have seventhRead : CommandLine.read ["-t", "7"] = .ok (seventh, []) := by decide +kernel
  have odd : EndsOddly "8N²" := ⟨'N', '²', by decide +kernel, by decide +kernel, by decide +kernel⟩
  have refused : (unset.override (CommandLine.overrides seventh []) bare.ports).2 =
      .error (.configuration (.unknownPreset "7" [1, 2, 3, 4, 5, 6])) := by decide +kernel
  obtain ⟨_, _, escaping⟩ :=
    overrides_are_reported_or_escape defaults_valid superscript [] bare.ports (c := unset)
  obtain ⟨_, _, reporting⟩ :=
    overrides_are_reported_or_escape defaults_valid seventh [] bare.ports (c := unset)
  have escaped := (escaping _ bare superscriptRead rfl loaded).2 _ (.digit "8N²" rfl odd)
  have reported := (reporting _ bare seventhRead rfl loaded).1 _ refused
  exact ⟨defaults_valid, loaded, superscriptRead, escaped.1, seventhRead, reported.1⟩

/-- Not all that is wrong with overrides is reported as a defect of the deployment. -/
theorem superscript_is_unreported :
    ¬ ∀ (c : Config) (o : CommandLine.Options) (devices present : List String), Valid c.settings →
      (c.override (CommandLine.overrides o devices) present).2 = .ok () ∨
        ∃ fault, (c.override (CommandLine.overrides o devices) present).2 =
          .error (.configuration fault) := by
  intro reported
  have failed : (unset.override (CommandLine.overrides superscript []) ["COM3"]).2 =
      .error .notNumeric := by decide +kernel
  rcases reported unset superscript [] ["COM3"] defaults_valid with accepted | ⟨fault, refused⟩
  · rw [failed] at accepted
    cases accepted
  · rw [failed] at refused
    cases refused

end Program

end MeterPolling
