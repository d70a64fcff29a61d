import MeterPolling.CommandLine
import MeterPolling.Proofs.Config.Entry
import MeterPolling.Proofs.Config.Validity
/-!
What a start leaves for the next one. A start that fails leaves the file as it was. After one that
succeeds, a start with nothing on the command line finds an equal configuration and has nothing to
save: either the settings were saved, or they are equal to what the file said already.
-/
namespace MeterPolling.Config

open Setting (Related Alike Equal)

variable {settings values back : List (String × Setting)} {c c₀ : Config} {o : Overrides}
  {format : Format} {file : File} {present ports : List String} {key name text : String}
  {x y : Setting}

/-- Settings that are equal key by key. -/
def Agree (a b : List (String × Setting)) : Prop :=
  ∀ key, Option.Rel Equal (a.lookup key) (b.lookup key)

def File.seen (text : String) : String := String.ofList (unifyLineEnds text.toList)

/-- The format writes these settings, and reads back what it wrote, as a table in which no key comes
twice. -/
structure Format.Keeps (format : Format) (settings : List (String × Setting)) : Prop where
  writes : ∃ text, format.write settings = .ok text
  readsBack : ∀ text, format.write settings = .ok text →
    ∃ back, format.read (File.seen text) = .ok back ∧ (back.map Prod.fst).Nodup ∧
      Alike (.table back) (.table settings)

def Overrides.nothing : Overrides := ⟨.absent, .absent, .absent, .absent, .absent, .list []⟩

example : CommandLine.overrides .initial [] = .nothing := rfl

/-! ## Settings that are alike -/

theorem value_related {leaf : Setting → Setting → Prop} (absent : leaf .absent .absent)
    (related : Option.Rel (Related leaf) (back.lookup key) (settings.lookup key)) :
    Related leaf (value back key) (value settings key) :=
  Setting.rel_getD related (.leaf absent)

theorem isPlain_of_isNotPositive {b : Bool} (compared : isNotPositive x = .ok b) :
    x.isPlain = true := by
  cases x <;> simp_all [isNotPositive, Setting.number?, Setting.isPlain]

/-- Entries that are accepted are found again. Those of a table are its keys, in any order. -/
theorem elements_alike {fallback : Setting} {entries : List Setting} (alike : Alike y x)
    (found : elements x = .ok entries)
    (accepted : ∀ entry ∈ entries, ∃ device, parseDevice entry fallback = .ok device) :
    ∃ entries, elements y = .ok entries ∧
      ∀ entry ∈ entries, ∃ device, parseDevice entry fallback = .ok device := by
  cases alike with
  | leaf same =>
    subst same
    exact ⟨entries, found, accepted⟩
  | list items =>
    cases found
    -- A list or a table among the entries could come back in another order and be shown otherwise.
    have plain : ∀ entry ∈ entries, entry.isPlain = true := by
      intro entry member
      obtain ⟨device, parsed⟩ := accepted entry member
      exact parseDevice_plain parsed
    rw [Setting.Alike.items_eq items plain]
    exact ⟨entries, rfl, accepted⟩
  | @table b a sameEntries =>
    cases found
    refine ⟨_, rfl, ?_⟩
    intro entry member
    obtain ⟨⟨key, z⟩, there, rfl⟩ := List.mem_map.mp member
    have known : (b.lookup key).isSome :=
      Setting.lookup_isSome_iff.mpr (List.mem_map.mpr ⟨_, there, rfl⟩)
    have before : (a.lookup key).isSome := (Setting.rel_isSome (sameEntries key)).symm.trans known
    obtain ⟨e, among, rfl⟩ := List.mem_map.mp (Setting.lookup_isSome_iff.mp before)
    exact accepted _ (List.mem_map.mpr ⟨e, among, rfl⟩)

/-- What validation checks is read back as it was. -/
theorem Valid.alike (valid : Valid settings)
    (alike : ∀ key, Option.Rel Alike (back.lookup key) (settings.lookup key)) : Valid back := by
  have same (key : String) (plain : (value settings key).isPlain = true) :
      value back key = value settings key :=
    Setting.Alike.eq_of_plain (value_related rfl (alike key)) plain
  refine ⟨⟨?baud, ?stop, ?parity, ?interval⟩, ?devices⟩
  case baud =>
    obtain ⟨rate, among, equal⟩ := valid.baud
    exact ⟨rate, among, by rw [same _ (Setting.isPlain_of_same equal), equal]⟩
  case stop => rw [same _ (Setting.isPlain_of_same valid.stop), valid.stop]
  case parity =>
    have plain : (value settings "parity").isPlain = true := by
      rcases valid.parity with none | even
      · rw [none]
        rfl
      · rw [even]
        rfl
    rw [same _ plain]
    exact valid.parity
  case interval => rw [same _ (isPlain_of_isNotPositive valid.interval), valid.interval]
  case devices =>
    obtain ⟨entries, found, accepted⟩ := valid.devices
    obtain ⟨entries, found, accepted⟩ :=
      elements_alike (value_related rfl (alike "device_ids")) found accepted
    exact ⟨entries, found, fun entry member => parseDevice_fallback (accepted entry member) _⟩

/-- Settings that were read back and completed are what was written. -/
theorem replaced_alike (complete : Complete settings) (distinct : (back.map Prod.fst).Nodup)
    (alike : Alike (.table back) (.table settings)) (key : String) :
    Option.Rel Alike ((replaced defaults back).lookup key) (settings.lookup key) := by
  have related := Setting.Alike.entries alike key
  have known := complete key
  rw [lookup_replaced, Setting.lookup_reverse distinct]
  generalize back.lookup key = x at related
  generalize settings.lookup key = y at related known
  cases related with
  | some related => exact .some related
  | none =>
    cases default : defaults.lookup key with
    | none => exact .none
    | some z =>
      rw [default] at known
      cases known rfl

theorem Agree.of_alike (alike : ∀ key, Option.Rel Alike (back.lookup key) (settings.lookup key)) :
    Agree back settings := by
  intro key
  exact Setting.rel_mono (fun _ _ => Setting.Alike.equal) (alike key)

theorem Agree.refl (settings : List (String × Setting)) : Agree settings settings :=
  .of_alike fun _ => Setting.Alike.refl_option _

/-- Values that change nothing leave equal settings. -/
theorem update_agree (unchanged : (c.update values present).1.isUnsaved = false) :
    Agree c.settings (c.update values present).1.settings := by
  intro key
  exact Setting.rel_mono (fun _ _ => .leaf) (update_unchanged unchanged key)

/-! ## A start that succeeds -/

/-- What the file says is `c₀`, and under the overrides it is `c`, whose port is present. -/
structure Prepared (format : Format) (file : File) (present : List String) (o : Overrides)
    (c₀ c : Config) : Prop where
  loaded : (load format file present).2 = .ok c₀
  applied : c₀.override o present = (c, .ok ())
  port : c.requirePort present = .ok ()

/-- What a start comes to: it is refused, or there is nothing to save, or the configuration is
saved. -/
inductive Prepares (format : Format) (file : File) (present : List String) (o : Overrides) :
    Startup → Prop where
  | refused (notices : List Notice) (f : Failure) :
      Prepares format file present o ⟨notices, file, .error f⟩
  | settled (notices : List Notice) (c₀ c : Config) : Prepared format file present o c₀ c →
      c.isUnsaved = false → Prepares format file present o ⟨notices, file, .ok c⟩
  | saves (notices : List Notice) (c₀ c : Config) : Prepared format file present o c₀ c →
      c.isUnsaved = true → Prepares format file present o
        ⟨notices ++ (c.save format file).2.2.1, (c.save format file).2.1,
          (c.save format file).2.2.2.map fun _ => (c.save format file).1⟩

theorem prepare_prepares (format : Format) (file : File) (present : List String) (o : Overrides) :
    Prepares format file present o (prepare format file present o) := by
  simp only [prepare]
  cases loaded : (load format file present).2 with
  | error f => exact .refused _ f
  | ok c₀ =>
    dsimp only
    split
    · exact .refused _ _
    · rename_i accepted
      obtain ⟨_, applied, port⟩ := bind_ok_iff.mp accepted
      have prepared : Prepared format file present o c₀ (c₀.override o present).1 :=
        ⟨loaded, by rw [← applied], port⟩
      cases unsaved : (c₀.override o present).1.isUnsaved with
      | false => exact .settled _ _ _ prepared unsaved
      | true => exact .saves _ _ _ prepared unsaved

theorem save_ok (writable : file ≠ .blocked) (writes : format.write c.settings = .ok text) :
    c.save format file =
      ({ c with isUnsaved := false }, File.ofText text, [.configurationSaved], .ok ()) := by
  cases file with
  | blocked => exact absurd rfl writable
  | missing | content => simp only [save, writes]

theorem requirePort_ok (port : c.requirePort present = .ok ()) :
    (c.get "com_port").isGiven = true ∧ c.isUsable = true := by
  simp only [requirePort] at port
  split at port
  · cases port
  · split at port
    · rename_i given usable
      exact ⟨by simpa using given, usable⟩
    · obtain ⟨shown, _, thrown⟩ := bind_ok_iff.mp port
      obtain ⟨ports, _, thrown⟩ := bind_ok_iff.mp thrown
      cases thrown

namespace Prepared

theorem isUsable (prepared : Prepared format file present o c₀ c) :
    ∃ ports, Ports.sorted present = .ok ports ∧ c.isUsable = isPresent (c.get "com_port") ports := by
  rcases override_ok prepared.applied with rfl | ⟨values, changed⟩
  · obtain ⟨ports, _, sorted, usable, _⟩ := load_ok prepared.loaded
    exact ⟨ports, sorted, usable⟩
  · have updated := update_ok (congrArg Prod.snd changed)
    rwa [changed] at updated

/-- The port is one of those that are present. -/
theorem names_port (prepared : Prepared format file present o c₀ c) :
    ∃ ports name, Ports.sorted present = .ok ports ∧ value c.settings "com_port" = .text name ∧
      name.isEmpty = false ∧ ports.contains name = true := by
  obtain ⟨given, usable⟩ := requirePort_ok prepared.port
  obtain ⟨ports, sorted, listed⟩ := prepared.isUsable
  rw [usable] at listed
  cases named : c.get "com_port" with
  | text name =>
    rw [named] at given listed
    exact ⟨ports, name, sorted, named, by simpa [Setting.isGiven] using given, listed.symm⟩
  | _ =>
    rw [named] at listed
    cases listed

/-- With nothing to save, the settings are equal to those of the file. -/
theorem agree (prepared : Prepared format file present o c₀ c) (settled : c.isUnsaved = false) :
    Agree c₀.settings c.settings := by
  rcases override_ok prepared.applied with rfl | ⟨values, changed⟩
  · exact .refl _
  · have same : (c₀.update values present).1 = c := congrArg Prod.fst changed
    rw [← same] at settled ⊢
    exact update_agree settled

end Prepared

/-! ## The next start -/

/-- A start with nothing on the command line takes what it reads, if the port is present. -/
theorem prepare_nothing (read : readSettings format file = ([], .ok settings))
    (sorted : Ports.sorted present = .ok ports) (port : value settings "com_port" = .text name)
    (given : name.isEmpty = false) (among : ports.contains name = true) :
    prepare format file present .nothing = ⟨[], file, .ok ⟨settings, true, false⟩⟩ := by
  have loaded : load format file present = ([], .ok ⟨settings, true, false⟩) := by
    simp only [load, read, ofSettings, sorted, port, isPresent, among, Except.bind, bind, pure,
      Except.pure]
  have applied : Config.override ⟨settings, true, false⟩ .nothing present =
      (⟨settings, true, false⟩, .ok ()) := rfl
  have required : requirePort ⟨settings, true, false⟩ present = .ok () := by
    simp [requirePort, get, port, Setting.isGiven, given]
  simp only [prepare, loaded, applied, Except.bind, required]
  rfl

/-- Settings that name a port are no defaults, hence they are what the file says. -/
theorem readSettings_named (read : (readSettings format file).2 = .ok settings)
    (port : value settings "com_port" = .text name) (given : name.isEmpty = false) :
    readSettings format file = ([], .ok settings) := by
  have reads := readSettings_reads format file
  generalize readSettings format file = result at reads read ⊢
  cases reads with
  | kept notices =>
    cases read
    cases port
    cases given
  | failed f => cases read
  | accepted loaded accepted =>
    cases read
    rfl

theorem decode?_ofText (text : String) : File.decode? text.toUTF8 = some (File.seen text) := by
  have valid : String.fromUTF8? text.toUTF8 = some text := dif_pos text.isValidUTF8
  simp only [File.decode?, valid, Option.map_some, File.seen]

theorem readSettings_ofText (read : format.read (File.seen text) = .ok back)
    (valid : Valid (replaced defaults back)) :
    readSettings format (.ofText text) = ([], .ok (replaced defaults back)) := by
  simp only [readSettings, File.ofText, decode?_ofText, read, validate_iff.mpr valid]

/-- A start that fails leaves the file as it was. After one that succeeds, a start with nothing on the
command line finds an equal configuration, reports nothing and leaves the file as it is; saving would
be reported. -/
theorem prepare_persists (writable : file ≠ .blocked)
    (keeps : ∀ c₀, (load format file present).2 = .ok c₀ →
      (c₀.override o present).1.isUnsaved = true →
      format.Keeps (c₀.override o present).1.settings) :
    (∀ f, (prepare format file present o).result = .error f →
      (prepare format file present o).file = file) ∧
    ∀ c, (prepare format file present o).result = .ok c → ∃ c',
      prepare format (prepare format file present o).file present .nothing =
        ⟨[], (prepare format file present o).file, .ok c'⟩ ∧ Agree c'.settings c.settings := by
  have prepares := prepare_prepares format file present o
  generalize prepare format file present o = first at prepares
  cases prepares with
  | refused notices f => exact ⟨fun _ _ => rfl, nofun⟩
  | settled notices c₀ c prepared settled =>
    refine ⟨nofun, fun c done => ?_⟩
    cases done
    obtain ⟨ports, name, sorted, port, given, among⟩ := prepared.names_port
    have agree := prepared.agree settled
    -- The file holds an equal port, and only a text is equal to a text.
    have port₀ : value c₀.settings "com_port" = .text name := by
      have equal := value_related (.inl rfl) (agree "com_port")
      rw [port] at equal
      exact Setting.Equal.eq_text equal
    obtain ⟨_, read, _⟩ := load_ok prepared.loaded
    exact ⟨_, prepare_nothing (readSettings_named read port₀ given) sorted port₀ given among, agree⟩
  | saves notices c₀ c prepared unsaved =>
    have same : (c₀.override o present).1 = c := congrArg Prod.fst prepared.applied
    have kept := keeps c₀ prepared.loaded
    rw [same] at kept
    obtain ⟨⟨text, writes⟩, readsBack⟩ := kept unsaved
    rw [save_ok writable writes]
    refine ⟨nofun, fun c' done => ?_⟩
    cases done
    obtain ⟨ports, name, sorted, port, given, among⟩ := prepared.names_port
    obtain ⟨back, read, distinct, alike⟩ := readsBack text writes
    have complete : Complete c.settings := same ▸ (load_complete prepared.loaded).override o present
    have valid : Valid c.settings := same ▸ (load_valid prepared.loaded).override o present
    have alike := replaced_alike complete distinct alike
    -- A text has no order to lose: it comes back as it was.
    have portBack : value (replaced defaults back) "com_port" = .text name := by
      have equal := value_related rfl (alike "com_port")
      rw [port] at equal
      exact Setting.Alike.eq_of_plain equal rfl
    exact ⟨_, prepare_nothing (readSettings_ofText read (valid.alike alike)) sorted portBack given
      among, .of_alike alike⟩

deriving instance DecidableEq for Config

/-- A file that names a port, a rate that is a real number and something that is no setting. -/
def notedFile : File := .ofText "note = \"roof\"\nbaud = 2400.0\ncom_port = \"COM3\"\n"

def slower : Overrides where
  port := .absent
  baud := .number 2400
  serial := .absent
  preset := .absent
  interval := .number (.real (.ofQuotient false 15 2))
  devices := .list [.text "3:dzg"]

def noted (baud interval : Number) (devices : List Setting) : List (String × Setting) := [
  ("com_port", .text "COM3"),
  ("baud", .number baud),
  ("stop", .number 1),
  ("parity", .text "N"),
  ("device_ids", .list devices),
  ("default_producer", .text "sdm"),
  ("producer_order", .list [.text "sdm", .text "janitza", .text "dzg"]),
  ("poll_interval", .number interval),
  ("note", .text "roof")]

def slowerText : String :=
  "com_port = \"COM3\"\nbaud = 2400\nstop = 1\nparity = \"N\"\ndevice_ids = [ \"3:dzg\",]\n" ++
  "default_producer = \"sdm\"\nproducer_order = [ \"sdm\", \"janitza\", \"dzg\",]\n" ++
  "poll_interval = 7.5\nnote = \"roof\"\n"

theorem toml_keeps_noted :
    Format.toml.Keeps (noted 2400 (.real (.ofQuotient false 15 2)) [.text "3:dzg"]) := by
  have writes : Format.toml.write (noted 2400 (.real (.ofQuotient false 15 2)) [.text "3:dzg"]) =
      .ok slowerText := by decide +kernel
  have reads : Format.toml.read (File.seen slowerText) =
      .ok (noted 2400 (.real (.ofQuotient false 15 2)) [.text "3:dzg"]) := by decide +kernel
  refine ⟨⟨slowerText, writes⟩, fun text written => ?_⟩
  rw [writes] at written
  cases written
  exact ⟨_, reads, by decide, .leaf rfl⟩

theorem slower_persists :
    notedFile ≠ .blocked ∧
      (∀ c₀, (load .toml notedFile ["COM3"]).2 = .ok c₀ →
        (c₀.override slower ["COM3"]).1.isUnsaved = true →
        Format.toml.Keeps (c₀.override slower ["COM3"]).1.settings) ∧
      ∃ c c', (prepare .toml notedFile ["COM3"] slower).result = .ok c ∧
        c.settings = noted 2400 (.real (.ofQuotient false 15 2)) [.text "3:dzg"] ∧
        prepare .toml (prepare .toml notedFile ["COM3"] slower).file ["COM3"] .nothing =
          ⟨[], (prepare .toml notedFile ["COM3"] slower).file, .ok c'⟩ ∧
        Agree c'.settings c.settings := by
  have writable : notedFile ≠ .blocked := nofun
  have loaded : (load .toml notedFile ["COM3"]).2 =
      .ok ⟨noted (.real (.ofQuotient false 2400 1)) (.real (.ofQuotient false 5 1)) [], true,
        false⟩ := by
    decide +kernel
  have changed : (Config.override ⟨noted (.real (.ofQuotient false 2400 1))
      (.real (.ofQuotient false 5 1)) [], true, false⟩ slower ["COM3"]).1.settings =
        noted 2400 (.real (.ofQuotient false 15 2)) [.text "3:dzg"] := by
    decide +kernel
  have keeps : ∀ c₀, (load .toml notedFile ["COM3"]).2 = .ok c₀ →
      (c₀.override slower ["COM3"]).1.isUnsaved = true →
      Format.toml.Keeps (c₀.override slower ["COM3"]).1.settings := by
    intro c₀ found _
    rw [loaded] at found
    cases found
    rw [changed]
    exact toml_keeps_noted
  have done : (prepare .toml notedFile ["COM3"] slower).result =
      .ok ⟨noted 2400 (.real (.ofQuotient false 15 2)) [.text "3:dzg"], true, false⟩ := by
    decide +kernel
  obtain ⟨c', again, agree⟩ := (prepare_persists writable keeps).2 _ done
  exact ⟨writable, keeps, _, c', done, rfl, again, agree⟩

end MeterPolling.Config
