import MeterPolling.Proofs.Config.Override
import MeterPolling.Proofs.Config.Persistence
/-!
What loading makes of a file. Whatever its text says, the settings are the defaults with the values of
the file over them, if these are valid, and otherwise just the defaults, with one error reported.
Bytes that are no text, however, are not dealt with: they are the one thing by which loading fails.
-/
namespace MeterPolling.Config

variable {format : Format} {file : File} {loaded settings : List (String × Setting)}
  {present ports : List String} {bytes : ByteArray} {text : String} {c : Config}

namespace File

def Undecodable (file : File) : Prop := ∃ bytes, file = .content bytes ∧ ¬ bytes.IsValidUTF8

def Gives (format : Format) (file : File) (loaded : List (String × Setting)) : Prop :=
  ∃ bytes text, file = .content bytes ∧ decode? bytes = some text ∧ format.read text = .ok loaded

/-- The text in the file, where there is one, is either read or refused as malformed. -/
def Fits (format : Format) (file : File) : Prop :=
  ∀ bytes text f, file = .content bytes → decode? bytes = some text →
    format.read text ≠ .error (.broken f)

theorem decode?_none : decode? bytes = none ↔ ¬ bytes.IsValidUTF8 := by
  unfold decode? String.fromUTF8?
  split
  · rename_i valid
    simp [valid]
  · rename_i invalid
    simp [invalid]

theorem Undecodable.fits (undecodable : file.Undecodable) : file.Fits format := by
  obtain ⟨_, rfl, invalid⟩ := undecodable
  intro bytes text f same decoded
  cases same
  rw [decode?_none.mpr invalid] at decoded
  cases decoded

/-- A text gives one list of values only. -/
theorem Gives.unique {other : List (String × Setting)} (gives : file.Gives format loaded)
    (also : file.Gives format other) : other = loaded := by
  obtain ⟨bytes, text, rfl, decoded, read⟩ := gives
  obtain ⟨_, _, same, decoded', read'⟩ := also
  cases same
  rw [decoded] at decoded'
  cases decoded'
  rw [read] at read'
  exact (Except.ok.inj read').symm

theorem not_gives_of_refused (decoded : decode? bytes = some text) {fault : Toml.Fault}
    (refused : format.read text = .error fault) :
    ¬ (File.content bytes).Gives format loaded := by
  rintro ⟨_, _, same, decoded', read⟩
  cases same
  rw [decoded] at decoded'
  cases decoded'
  rw [refused] at read
  cases read

end File

/-- The values of a file over the defaults: what the file gives last for a key counts, and for any
other key what the defaults give. -/
def Over (loaded settings : List (String × Setting)) : Prop :=
  ∀ key, settings.lookup key = (loaded.reverse.lookup key).or (defaults.lookup key)

theorem over_replaced (loaded : List (String × Setting)) : Over loaded (replaced defaults loaded) :=
  lookup_replaced defaults loaded

theorem Over.valid (laid : Over loaded settings) (valid : Valid settings) :
    Valid (replaced defaults loaded) :=
  valid.congr fun key => (laid key).trans (over_replaced loaded key).symm

/-- What becomes of a file that can be dealt with: what is reported, and the settings afterwards. -/
inductive Settles (format : Format) (file : File) : List Notice → List (String × Setting) → Prop where
  | unset : file = .missing → Settles format file [] defaults
  | accepted (loaded settings : List (String × Setting)) : file.Gives format loaded →
      Over loaded settings → Valid settings → Settles format file [] settings
  | reverted (n : Notice) : file ≠ .missing →
      (∀ loaded settings, file.Gives format loaded → Over loaded settings → ¬ Valid settings) →
      n.reporter = .configuration → n.level = .error → Settles format file [n] defaults

theorem load_of_read {notices : List Notice} (listed : Ports.sorted present = .ok ports)
    (read : readSettings format file = (notices, .ok settings)) :
    load format file present =
      (notices, .ok ⟨settings, isPresent (value settings "com_port") ports, false⟩) := by
  simp only [load, read, Except.bind, ofSettings, listed, bind, pure, Except.pure]

/-- Settings that are not valid give way to the defaults. -/
theorem readSettings_invalid (gives : file.Gives format loaded)
    (invalid : ¬ Valid (replaced defaults loaded)) :
    ∃ n, readSettings format file = ([n], .ok defaults) ∧ n.reporter = .configuration ∧
      n.level = .error := by
  obtain ⟨bytes, text, rfl, decoded, read⟩ := gives
  simp only [readSettings, decoded, read]
  split
  · rename_i accepted
    exact absurd (validate_iff.mp accepted) invalid
  · exact ⟨_, rfl, rfl, rfl⟩
  · exact ⟨_, rfl, rfl, rfl⟩

theorem readSettings_accepted (gives : file.Gives format loaded)
    (valid : Valid (replaced defaults loaded)) :
    readSettings format file = ([], .ok (replaced defaults loaded)) := by
  obtain ⟨bytes, text, rfl, decoded, read⟩ := gives
  simp only [readSettings, decoded, read, validate_iff.mpr valid]

/-- All that can be wrong with a text is dealt with alike. -/
theorem readSettings_settles (fits : file.Fits format) (decodable : ¬ file.Undecodable) :
    ∃ notices settings, readSettings format file = (notices, .ok settings) ∧
      Settles format file notices settings := by
  cases file with
  | missing => exact ⟨_, _, rfl, .unset rfl⟩
  | blocked =>
    refine ⟨_, _, rfl, .reverted _ nofun ?_ rfl rfl⟩
    rintro loaded settings ⟨_, _, same, _⟩
    cases same
  | content bytes =>
    cases decoded : File.decode? bytes with
    | none => exact absurd ⟨bytes, rfl, File.decode?_none.mp decoded⟩ decodable
    | some text =>
      cases read : format.read text with
      | error fault =>
        cases fault with
        | broken f => exact absurd read (fits bytes text f rfl decoded)
        | malformed =>
          refine ⟨_, _, by simp only [readSettings, decoded, read]; rfl, .reverted _ nofun ?_ rfl rfl⟩
          exact fun loaded settings gives => absurd gives (File.not_gives_of_refused decoded read)
      | ok loaded =>
        have gives : (File.content bytes).Gives format loaded := ⟨bytes, text, rfl, decoded, read⟩
        by_cases valid : Valid (replaced defaults loaded)
        · exact ⟨_, _, readSettings_accepted gives valid,
            .accepted loaded _ gives (over_replaced loaded) valid⟩
        · obtain ⟨n, reads, reporter, level⟩ := readSettings_invalid gives valid
          refine ⟨_, _, reads, .reverted n nofun ?_ reporter level⟩
          intro other settings also laid accepted
          rw [gives.unique also] at laid
          exact valid (laid.valid accepted)

/-- Where the ports can be listed, loading fails just for bytes that are no text. Any other file is
dealt with, and leaves either its own values over the defaults, or the defaults and one error. -/
theorem load_reverts_unless_undecodable (fits : file.Fits format)
    (listed : Ports.sorted present = .ok ports) :
    (file.Undecodable → load format file present = ([], .error .undecodable)) ∧
      (¬ file.Undecodable → ∃ notices c, load format file present = (notices, .ok c) ∧
        Settles format file notices c.settings) := by
  constructor
  · rintro ⟨bytes, rfl, invalid⟩
    simp only [load, readSettings, File.decode?_none.mpr invalid, Except.bind]
  · intro decodable
    obtain ⟨notices, settings, read, settles⟩ := readSettings_settles fits decodable
    exact ⟨notices, _, load_of_read listed read, settles⟩

theorem File.fits_ofText (fits : ∀ f, format.read (File.seen text) ≠ .error (.broken f)) :
    (File.ofText text).Fits format := by
  intro bytes read f same decoded
  cases same
  rw [decode?_ofText] at decoded
  cases decoded
  exact fits f

theorem File.decodable_ofText (text : String) : ¬ (File.ofText text).Undecodable := by
  rintro ⟨bytes, same, invalid⟩
  cases same
  exact invalid text.isValidUTF8

/-- A file whose port has an accented letter, in one byte. -/
def latinFile : File := .content ("com_port = \"caf".toUTF8.push 0xe9 ++ "\"\n".toUTF8)

def oddFile : File := .ofText "com_port = \"COM3\"\nparity = \"O\"\n"

theorem latinFile_undecodable : latinFile.Undecodable := ⟨_, rfl, by decide +kernel⟩

theorem odd_parity_reverts_latin_fails :
    latinFile.Fits .toml ∧ oddFile.Fits .toml ∧ Ports.sorted ["COM3"] = .ok ["COM3"] ∧
      latinFile.Undecodable ∧ load .toml latinFile ["COM3"] = ([], .error .undecodable) ∧
      ¬ oddFile.Undecodable ∧ ∃ n c, load .toml oddFile ["COM3"] = ([n], .ok c) ∧
        n.level = .error ∧ c.settings = defaults := by
  have latinFits : latinFile.Fits .toml := latinFile_undecodable.fits
  have oddFits : oddFile.Fits .toml := by
    have read : Format.toml.read (File.seen "com_port = \"COM3\"\nparity = \"O\"\n") =
        .ok [("com_port", .text "COM3"), ("parity", .text "O")] := by decide +kernel
    refine File.fits_ofText fun f broken => ?_
    rw [read] at broken
    cases broken
  have listed : Ports.sorted ["COM3"] = .ok ["COM3"] := by decide +kernel
  have decodable : ¬ oddFile.Undecodable := File.decodable_ofText _
  have failed := (load_reverts_unless_undecodable latinFits listed).1 latinFile_undecodable
  obtain ⟨notices, c, loaded, settles⟩ :=
    (load_reverts_unless_undecodable oddFits listed).2 decodable
  have reported : (load .toml oddFile ["COM3"]).1 = [.configurationInvalid (.parity "O")] := by
    decide +kernel
  refine ⟨latinFits, oddFits, listed, latinFile_undecodable, failed, decodable, ?_⟩
  rw [loaded] at reported
  generalize reads : c.settings = settings at settles
  cases settles with
  | unset => cases reported
  | accepted => cases reported
  | reverted n _ _ _ level => exact ⟨n, c, loaded, level, reads⟩

/-- Not every file is dealt with. -/
theorem latin_file_is_not_loaded :
    ¬ ∀ file present ports, file.Fits .toml → Ports.sorted present = .ok ports →
      ∃ notices c, load .toml file present = (notices, .ok c) := by
  intro all
  have listed : Ports.sorted [] = .ok [] := by decide +kernel
  obtain ⟨notices, c, loaded⟩ := all latinFile [] [] latinFile_undecodable.fits listed
  have failed : (load .toml latinFile []).2.isOk = false := by decide +kernel
  rw [loaded] at failed
  cases failed

end MeterPolling.Config
