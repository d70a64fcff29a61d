import MeterPolling.Proofs.Config.Loading
import MeterPolling.Proofs.Config.Refusal
/-!
The devices of a configuration: one for each of the entries and in their order, if all producers are
known. The entries are to be a list. But a text and a table are gone through as well, one by its
characters and the other by its keys, so that they are polled where they should be rejected.
-/
namespace MeterPolling

/-- The three producers that are always there. -/
theorem Registry.shipped_eq :
    Registry.shipped = ⟨[("dzg", .dzg), ("janitza", .janitza), ("sdm", .sdm)]⟩ := by
  unfold Registry.shipped Registry.discover
  simp only
  congr 1
  exact (List.mergeSort_of_pairwise (by decide +kernel)).trans (by decide +kernel)

namespace Config

variable {format : Format} {file : File} {loaded settings : List (String × Setting)}
  {present ports : List String} {c : Config} {registry : Registry} {entries items : List Setting}
  {devices : List (Int × Producer)} {fallback entry name : Setting} {p : Producer}
  {result : List Notice × Except Failure Config}

/-! ## Entries and devices -/

/-- Only a text names a producer. -/
theorem producer_ok_iff :
    producer registry name = .ok p ↔ ∃ text, name = .text text ∧ registry.get text = .ok p := by
  unfold producer
  rw [bind_ok_iff]
  cases name with
  | text text => simp [lookupText, Setting.shown, Except.mapError]
  | _ => simp [throw, throwThe, MonadExceptOf.throw]

/-- An entry comes to a device: it is accepted, and its producer is known. -/
def Resolves (registry : Registry) (fallback entry : Setting) (device : Int × Producer) : Prop :=
  ∃ name, parseDevice entry fallback = .ok (device.1, .text name) ∧ registry.get name = .ok device.2

theorem resolves_iff {device : Int × Producer} :
    (match parseDevice entry fallback with
      | .ok (n, name) => do return (n, ← producer registry name)
      | .error fault => .error (.setting fault) : Except Failure (Int × Producer)) = .ok device ↔
      Resolves registry fallback entry device := by
  unfold Resolves
  cases parsed : parseDevice entry fallback with
  | error fault => simp
  | ok named =>
    obtain ⟨n, name⟩ := named
    simp only [bind_ok_iff, producer_ok_iff]
    constructor
    · rintro ⟨p, ⟨text, rfl, known⟩, made⟩
      cases made
      exact ⟨text, rfl, known⟩
    · rintro ⟨text, same, known⟩
      cases same
      exact ⟨device.2, ⟨text, rfl, known⟩, rfl⟩

/-- The devices are those to which the entries come, one for each. -/
theorem devices_ok_iff : c.devices registry = .ok devices ↔
    ∃ entries, elements (c.get "device_ids") = .ok entries ∧
      List.Forall₂ (Resolves registry (c.get "default_producer")) entries devices := by
  unfold Config.devices
  simp only [bind_ok_iff, mapM_ok_iff]
  refine exists_congr fun entries => and_congr_right fun _ => ?_
  constructor
  · intro made
    exact made.imp fun entry device => resolves_iff.mp
  · intro made
    exact made.imp fun entry device => resolves_iff.mpr

/-- Where each entry comes to a device, there are the devices. -/
theorem exists_devices (found : elements (c.get "device_ids") = .ok entries)
    (known : ∀ entry ∈ entries, ∃ device, Resolves registry (c.get "default_producer") entry device) :
    ∃ devices, c.devices registry = .ok devices ∧
      List.Forall₂ (Resolves registry (c.get "default_producer")) entries devices := by
  have made : ∃ devices,
      List.Forall₂ (Resolves registry (c.get "default_producer")) entries devices := by
    clear found
    induction entries with
    | nil => exact ⟨[], .nil⟩
    | cons entry rest ih =>
      obtain ⟨first, later⟩ := List.forall_mem_cons.mp known
      obtain ⟨device, resolves⟩ := first
      obtain ⟨devices, others⟩ := ih later
      exact ⟨device :: devices, .cons resolves others⟩
  obtain ⟨devices, made⟩ := made
  exact ⟨devices, devices_ok_iff.mpr ⟨entries, found, made⟩, made⟩

/-- An entry is accepted, but what it names as its producer is not found, with this failure. -/
def Unresolved (registry : Registry) (fallback entry : Setting) (f : Failure) : Prop :=
  ∃ n name, parseDevice entry fallback = .ok (n, name) ∧ producer registry name = .error f

/-- Where all entries are accepted, only their producers can be missing. -/
theorem devices_or_unresolved (found : elements (c.get "device_ids") = .ok entries)
    (accepted : ∀ entry ∈ entries,
      ∃ device, parseDevice entry (c.get "default_producer") = .ok device) (registry : Registry) :
    (∃ devices, c.devices registry = .ok devices ∧
      List.Forall₂ (Resolves registry (c.get "default_producer")) entries devices) ∨
    ∃ f, c.devices registry = .error f ∧
      ∃ entry ∈ entries, Unresolved registry (c.get "default_producer") entry f := by
  cases polled : c.devices registry with
  | ok devices =>
    obtain ⟨entries', found', made⟩ := devices_ok_iff.mp polled
    rw [found] at found'
    cases found'
    exact .inl ⟨devices, rfl, made⟩
  | error f =>
    refine .inr ⟨f, rfl, ?_⟩
    rcases bind_error_iff.mp polled with unread | ⟨entries', found', failed⟩
    · rw [found] at unread
      cases unread
    · rw [found] at found'
      cases found'
      obtain ⟨entry, member, failed⟩ := mapM_error failed
      obtain ⟨⟨n, name⟩, parsed⟩ := accepted entry member
      refine ⟨entry, member, n, name, parsed, ?_⟩
      rw [parsed] at failed
      rcases bind_error_iff.mp failed with missing | ⟨p, _, done⟩
      · exact missing
      · cases done

/-! ## Validation, the devices apart -/

def Accepted (settings : List (String × Setting)) (entry : Setting) : Prop :=
  ∃ n name, parseDevice entry (value settings "default_producer") = .ok (n, name)

theorem ValidApart.valid_iff (others : ValidApart settings) : Valid settings ↔
    ∃ entries, elements (value settings "device_ids") = .ok entries ∧
      ∀ entry ∈ entries, Accepted settings entry := by
  have accepted (entry : Setting) : Accepted settings entry ↔
      ∃ device, parseDevice entry (value settings "default_producer") = .ok device :=
    ⟨fun ⟨n, name, parsed⟩ => ⟨(n, name), parsed⟩, fun ⟨(n, name), parsed⟩ => ⟨n, name, parsed⟩⟩
  simp only [accepted]
  constructor
  · exact fun valid => valid.devices
  · exact fun devices => ⟨others, devices⟩

/-! ## Listed devices -/

/-- An entry and the device for it: its address, with its own producer or else the fallback. -/
def Listed (registry : Registry) (fallback entry : Setting) (device : Int × Producer) : Prop :=
  ∃ name, Names fallback entry device.1 (.text name) ∧ registry.get name = .ok device.2

def Known (registry : Registry) (fallback : Setting) (entries : List Setting) : Prop :=
  ∀ entry ∈ entries, ∀ n name, Names fallback entry n name →
    ∃ text p, name = .text text ∧ registry.get text = .ok p

/-- The settings are taken as they are, and each of these entries is polled as one device. -/
def Taken (settings : List (String × Setting)) (entries : List Setting)
    (result : List Notice × Except Failure Config) : Prop :=
  ∃ c, result = ([], .ok c) ∧ c.settings = settings ∧
    ∀ registry, Known registry (value settings "default_producer") entries →
      ∃ devices, c.devices registry = .ok devices ∧
        List.Forall₂ (Listed registry (value settings "default_producer")) entries devices

/-- An error is reported, and the defaults hold. -/
def Rejected (result : List Notice × Except Failure Config) : Prop :=
  ∃ n c, result = ([n], .ok c) ∧ n.level = .error ∧ c.settings = defaults

/-- What a value consists of that is no list: the characters of a text, the keys of a table. -/
inductive Pieces : Setting → List Setting → Prop where
  | characters (s : String) : Pieces (.text s) (s.toList.map fun c => .text (String.singleton c))
  | keys (entries : List (String × Setting)) : Pieces (.table entries) (entries.map (.text ·.1))

theorem Pieces.elements {x : Setting} (pieces : Pieces x entries) : elements x = .ok entries := by
  cases pieces <;> rfl

theorem Pieces.proper {x : Setting} (pieces : Pieces x entries) :
    ∀ entry ∈ entries, isEntry entry = true := by
  intro entry member
  cases pieces with
  | characters s =>
    obtain ⟨_, _, rfl⟩ := List.mem_map.mp member
    rfl
  | keys table =>
    obtain ⟨_, _, rfl⟩ := List.mem_map.mp member
    rfl

theorem pieces_of_elements {x : Setting} (found : elements x = .ok entries)
    (unlisted : ∀ items, x ≠ .list items) : Pieces x entries := by
  cases x with
  | list items => exact absurd rfl (unlisted items)
  | text s =>
    cases found
    exact .characters s
  | table entries =>
    cases found
    exact .keys entries
  | _ => cases found

theorem Resolves.listed {device : Int × Producer} (proper : isEntry entry = true)
    (resolves : Resolves registry fallback entry device) : Listed registry fallback entry device := by
  obtain ⟨name, parsed, known⟩ := resolves
  exact ⟨name, (parseDevice_names proper).mp parsed, known⟩

theorem forall₂_listed (proper : ∀ entry ∈ entries, isEntry entry = true)
    (made : List.Forall₂ (Resolves registry fallback) entries devices) :
    List.Forall₂ (Listed registry fallback) entries devices := by
  induction made with
  | nil => exact .nil
  | cons resolves _ ih =>
    obtain ⟨first, later⟩ := List.forall_mem_cons.mp proper
    exact .cons (resolves.listed first) (ih later)

/-- Producers that entries come to are known. -/
theorem known_of_resolves (proper : ∀ entry ∈ entries, isEntry entry = true)
    (resolved : ∀ entry ∈ entries, ∃ device, Resolves registry fallback entry device) :
    Known registry fallback entries := by
  intro entry member n name names
  obtain ⟨device, text, parsed, known⟩ := resolved entry member
  rw [(parseDevice_names (proper entry member)).mpr names] at parsed
  cases parsed
  exact ⟨text, device.2, rfl, known⟩

section Load

variable (gives : file.Gives format loaded) (others : ValidApart (replaced defaults loaded))
  (listed : Ports.sorted present = .ok ports)
include gives others listed

/-- Settings whose entries are accepted are taken, with these entries as devices. -/
theorem load_taken (found : elements (value (replaced defaults loaded) "device_ids") = .ok entries)
    (proper : ∀ entry ∈ entries, isEntry entry = true)
    (accepted : ∀ entry ∈ entries, Accepted (replaced defaults loaded) entry) :
    Taken (replaced defaults loaded) entries (load format file present) := by
  have read := readSettings_accepted gives (others.valid_iff.mpr ⟨entries, found, accepted⟩)
  refine ⟨_, load_of_read listed read, rfl, fun registry known => ?_⟩
  have resolved : ∀ entry ∈ entries, ∃ device,
      Resolves registry (value (replaced defaults loaded) "default_producer") entry device := by
    intro entry member
    obtain ⟨n, name, parsed⟩ := accepted entry member
    obtain ⟨text, p, rfl, there⟩ :=
      known entry member n name ((parseDevice_names (proper entry member)).mp parsed)
    exact ⟨(n, p), text, parsed, there⟩
  obtain ⟨devices, polled, made⟩ :=
    exists_devices (c := ⟨replaced defaults loaded, _, false⟩) found resolved
  exact ⟨devices, polled, forall₂_listed proper made⟩

theorem load_rejected
    (refused : ∀ entries, elements (value (replaced defaults loaded) "device_ids") = .ok entries →
      ∃ entry ∈ entries, ¬ Accepted (replaced defaults loaded) entry) :
    Rejected (load format file present) := by
  have invalid : ¬ Valid (replaced defaults loaded) := by
    intro valid
    obtain ⟨entries, found, accepted⟩ := others.valid_iff.mp valid
    obtain ⟨entry, member, refused⟩ := refused entries found
    exact refused (accepted entry member)
  obtain ⟨n, read, _, level⟩ := readSettings_invalid gives invalid
  exact ⟨n, _, load_of_read listed read, level, rfl⟩

/-- A list of texts and whole numbers that are all accepted is polled as it stands, one device for
each entry. Any other value is rejected, unless all that it consists of is accepted as well: then
the pieces of the value are polled. -/
theorem devices_are_those_listed :
    (∀ items, value (replaced defaults loaded) "device_ids" = .list items →
      (∀ item ∈ items, isEntry item = true ∧ Accepted (replaced defaults loaded) item) →
      Taken (replaced defaults loaded) items (load format file present)) ∧
    ((∀ items, value (replaced defaults loaded) "device_ids" ≠ .list items) →
      (∃ entries, Pieces (value (replaced defaults loaded) "device_ids") entries ∧
        (∀ entry ∈ entries, Accepted (replaced defaults loaded) entry) ∧
        Taken (replaced defaults loaded) entries (load format file present)) ∨
      ((∀ entries, Pieces (value (replaced defaults loaded) "device_ids") entries →
        ∃ entry ∈ entries, ¬ Accepted (replaced defaults loaded) entry) ∧
        Rejected (load format file present))) := by
  constructor
  · intro items list proper
    have found : elements (value (replaced defaults loaded) "device_ids") = .ok items := by
      rw [list]
      rfl
    exact load_taken gives others listed found (fun item member => (proper item member).1)
      fun item member => (proper item member).2
  · intro unlisted
    by_cases pieces : ∃ entries, Pieces (value (replaced defaults loaded) "device_ids") entries ∧
        ∀ entry ∈ entries, Accepted (replaced defaults loaded) entry
    · obtain ⟨entries, pieces, accepted⟩ := pieces
      exact .inl ⟨entries, pieces, accepted,
        load_taken gives others listed pieces.elements pieces.proper accepted⟩
    · have refused : ∀ entries, Pieces (value (replaced defaults loaded) "device_ids") entries →
          ∃ entry ∈ entries, ¬ Accepted (replaced defaults loaded) entry := by
        intro entries consists
        by_contra none
        refine pieces ⟨entries, consists, fun entry member => ?_⟩
        by_contra refused
        exact none ⟨entry, member, refused⟩
      refine .inr ⟨refused, load_rejected gives others listed fun entries found => ?_⟩
      exact refused entries (pieces_of_elements found unlisted)

end Load

/-- A list of entries, each spelled in another way. -/
def mixedEntries : List Setting := [.text "3", .text "7:", .text " 12:dzg"]

def mixedFile : File := .ofText "device_ids = [\"3\", \"7:\", \" 12:dzg\"]\n"

def flagFile : File := .ofText "device_ids = true\n"

def digitsFile : File := .ofText "device_ids = \"12\"\n"

theorem File.gives_ofText {text : String} (read : format.read (File.seen text) = .ok loaded) :
    (File.ofText text).Gives format loaded :=
  ⟨_, _, rfl, decode?_ofText text, read⟩

section Swapped

variable (x : Setting)

theorem value_fallback :
    value (replaced defaults [("device_ids", x)]) "default_producer" = .text "sdm" :=
  value_apart x (by decide)

/-- The defaults are valid with anything in place of the devices, the devices apart. -/
theorem validApart_devices : ValidApart (replaced defaults [("device_ids", x)]) := by
  constructor
  · rw [value_apart x (by decide)]
    exact defaults_valid.baud
  · rw [value_apart x (by decide)]
    exact defaults_valid.stop
  · rw [value_apart x (by decide)]
    exact defaults_valid.parity
  · rw [value_apart x (by decide)]
    exact defaults_valid.interval

end Swapped

theorem mixed_entries_are_polled_flag_is_rejected :
    mixedFile.Gives .toml [("device_ids", .list mixedEntries)] ∧
      flagFile.Gives .toml [("device_ids", .flag true)] ∧ Ports.sorted [] = .ok [] ∧
      ValidApart (replaced defaults [("device_ids", .list mixedEntries)]) ∧
      ValidApart (replaced defaults [("device_ids", .flag true)]) ∧
      (∃ c devices, load .toml mixedFile [] = ([], .ok c) ∧ c.devices .shipped = .ok devices ∧
        List.Forall₂ (Listed .shipped (.text "sdm")) mixedEntries devices) ∧
      Rejected (load .toml flagFile []) := by
  have mixed : mixedFile.Gives .toml [("device_ids", .list mixedEntries)] :=
    File.gives_ofText (by decide +kernel)
  have flag : flagFile.Gives .toml [("device_ids", .flag true)] :=
    File.gives_ofText (by decide +kernel)
  have listed : Ports.sorted [] = .ok [] := by decide +kernel
  have mixedApart := validApart_devices (.list mixedEntries)
  have flagApart := validApart_devices (.flag true)
  have proper : ∀ item ∈ mixedEntries, isEntry item = true := by decide
  have resolved : ∀ item ∈ mixedEntries, ∃ device, Resolves .shipped (.text "sdm") item device := by
    simp only [mixedEntries, List.forall_mem_cons, Registry.shipped_eq]
    exact ⟨⟨(3, .sdm), "sdm", by decide +kernel, rfl⟩, ⟨(7, .sdm), "sdm", by decide +kernel, rfl⟩,
      ⟨(12, .dzg), "dzg", by decide +kernel, rfl⟩, nofun⟩
  rw [← value_fallback (.list mixedEntries)] at resolved
  have accepted : ∀ item ∈ mixedEntries, isEntry item = true ∧
      Accepted (replaced defaults [("device_ids", .list mixedEntries)]) item := by
    intro item member
    obtain ⟨device, name, parsed, _⟩ := resolved item member
    exact ⟨proper item member, device.1, _, parsed⟩
  obtain ⟨c, loaded, _, polls⟩ :=
    (devices_are_those_listed mixed mixedApart listed).1 mixedEntries (value_devices _) accepted
  obtain ⟨devices, polled, made⟩ := polls .shipped (known_of_resolves proper resolved)
  have rejected : Rejected (load .toml flagFile []) := by
    obtain ⟨entries, pieces, _⟩ | ⟨_, rejected⟩ :=
      (devices_are_those_listed flag flagApart listed).2 (by rw [value_devices]; nofun)
    · rw [value_devices] at pieces
      cases pieces
    · exact rejected
  rw [value_fallback] at made
  exact ⟨mixed, flag, listed, mixedApart, flagApart, ⟨c, devices, loaded, polled, made⟩, rejected⟩

/-- A text is not always rejected. -/
theorem digits_are_polled :
    ¬ ∀ file loaded present ports, file.Gives .toml loaded →
      ValidApart (replaced defaults loaded) → Ports.sorted present = .ok ports →
      (∀ items, value (replaced defaults loaded) "device_ids" ≠ .list items) →
      Rejected (load .toml file present) := by
  intro all
  have listed : Ports.sorted [] = .ok [] := by decide +kernel
  have digits : digitsFile.Gives .toml [("device_ids", .text "12")] :=
    File.gives_ofText (by decide +kernel)
  obtain ⟨n, c, loaded, _⟩ := all digitsFile _ [] [] digits (validApart_devices _) listed
    (by rw [value_devices]; nofun)
  have silent : (load .toml digitsFile []).1 = [] := by decide +kernel
  rw [loaded] at silent
  cases silent

end Config

end MeterPolling
