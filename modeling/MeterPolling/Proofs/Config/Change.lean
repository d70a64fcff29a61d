import MeterPolling.Config.Startup
import MeterPolling.Proofs.Setting
/-!
How settings come about and change: what reading a file can give, and all that overrides can do.
-/
namespace MeterPolling

theorem bind_ok_iff {ε α β : Type} {x : Except ε α} {next : α → Except ε β} {b : β} :
    (x >>= next) = .ok b ↔ ∃ a, x = .ok a ∧ next a = .ok b := by
  cases x with
  | error e => simp [bind, Except.bind]
  | ok a => simp [bind, Except.bind]

theorem mapM_ok_iff {ε α β : Type} {make : α → Except ε β} {xs : List α} {ys : List β} :
    xs.mapM make = .ok ys ↔ List.Forall₂ (fun x y => make x = .ok y) xs ys := by
  induction xs generalizing ys with
  | nil =>
    rw [List.forall₂_nil_left_iff]
    constructor
    · rintro ⟨⟩
      rfl
    · rintro rfl
      rfl
  | cons x rest ih =>
    rw [List.mapM_cons, bind_ok_iff, List.forall₂_cons_left_iff]
    constructor
    · rintro ⟨y, first, made⟩
      obtain ⟨later, others, same⟩ := bind_ok_iff.mp made
      cases same
      exact ⟨y, later, first, ih.mp others, rfl⟩
    · rintro ⟨y, later, first, others, rfl⟩
      exact ⟨y, first, bind_ok_iff.mpr ⟨later, ih.mpr others, rfl⟩⟩

theorem mapM_ok_mem {ε α β : Type} {make : α → Except ε β} {xs : List α} {ys : List β} {x : α}
    (made : xs.mapM make = .ok ys) (member : x ∈ xs) : ∃ y, make x = .ok y := by
  induction mapM_ok_iff.mp made with
  | nil => cases member
  | cons first others ih =>
    rcases List.mem_cons.mp member with rfl | later
    · exact ⟨_, first⟩
    · exact ih (mapM_ok_iff.mpr others) later

theorem bind_error_iff {ε α β : Type} {x : Except ε α} {next : α → Except ε β} {e : ε} :
    (x >>= next) = .error e ↔ x = .error e ∨ ∃ a, x = .ok a ∧ next a = .error e := by
  cases x with
  | error e => simp [bind, Except.bind]
  | ok a => simp [bind, Except.bind]

theorem mapM_error {ε α β : Type} {make : α → Except ε β} {xs : List α} {e : ε}
    (failed : xs.mapM make = .error e) : ∃ x ∈ xs, make x = .error e := by
  induction xs with
  | nil => cases failed
  | cons x rest ih =>
    rw [List.mapM_cons] at failed
    rcases bind_error_iff.mp failed with first | ⟨_, _, later⟩
    · exact ⟨x, List.mem_cons_self, first⟩
    · rcases bind_error_iff.mp later with later | ⟨_, _, done⟩
      · obtain ⟨y, among, failed⟩ := ih later
        exact ⟨y, List.mem_cons_of_mem x among, failed⟩
      · cases done

namespace Config

variable {settings values : List (String × Setting)} {c c₀ : Config} {o : Overrides}
  {format : Format} {file : File} {present ports : List String}

/-! ## Replaced values -/

theorem lookup_replaced (settings values : List (String × Setting)) (key : String) :
    (replaced settings values).lookup key = (values.reverse.lookup key).or (settings.lookup key) := by
  unfold replaced
  induction values generalizing settings with
  | nil => simp
  | cons entry rest ih =>
    obtain ⟨k, x⟩ := entry
    rw [List.foldl_cons, ih, List.reverse_cons, List.lookup_append, Setting.lookup_putEntry,
      Setting.lookup_entry, List.lookup_nil, Option.or_assoc]
    by_cases same : key = k <;> simp [same]

theorem value_devices (x : Setting) :
    value (replaced settings [("device_ids", x)]) "device_ids" = x := by
  simp [value, lookup_replaced]

theorem value_apart (x : Setting) {key : String} (other : key ≠ "device_ids") :
    value (replaced settings [("device_ids", x)]) key = value settings key := by
  simp [value, lookup_replaced, List.lookup_cons, beq_false_of_ne other]

/-! ## Loading -/

/-- What reading a file comes to: the defaults, or a failure, or valid settings on top of the
defaults. -/
inductive Reads : List Notice × Except Failure (List (String × Setting)) → Prop where
  | kept (notices : List Notice) : Reads (notices, .ok defaults)
  | failed (f : Failure) : Reads ([], .error f)
  | accepted (loaded : List (String × Setting)) : validate (replaced defaults loaded) = .ok () →
      Reads ([], .ok (replaced defaults loaded))

theorem readSettings_reads (format : Format) (file : File) : Reads (readSettings format file) := by
  unfold readSettings
  split
  · exact .kept _
  · exact .kept _
  · split
    · exact .failed _
    · split
      · exact .failed _
      · exact .kept _
      · dsimp only
        split
        · exact .accepted _ ‹_›
        · exact .kept _
        · exact .kept _

theorem ofSettings_ok (made : ofSettings settings present = .ok c) :
    ∃ ports, Ports.sorted present = .ok ports ∧
      c = ⟨settings, isPresent (value settings "com_port") ports, false⟩ := by
  obtain ⟨ports, sorted, made⟩ := bind_ok_iff.mp made
  cases made
  exact ⟨ports, sorted, rfl⟩

theorem load_ok (loaded : (load format file present).2 = .ok c) :
    ∃ ports, (readSettings format file).2 = .ok c.settings ∧ Ports.sorted present = .ok ports ∧
      c.isUsable = isPresent (c.get "com_port") ports ∧ c.isUnsaved = false := by
  obtain ⟨settings, read, made⟩ := bind_ok_iff.mp loaded
  obtain ⟨ports, sorted, rfl⟩ := ofSettings_ok made
  exact ⟨ports, read, sorted, rfl, rfl⟩

/-! ## Changing -/

theorem update_settings (c : Config) (values : List (String × Setting)) (present : List String) :
    (c.update values present).1.settings = replaced c.settings values := by
  simp only [update]
  split <;> rfl

theorem update_isUnsaved (c : Config) (values : List (String × Setting)) (present : List String) :
    (c.update values present).1.isUnsaved =
      values.any fun e => !((c.settings.lookup e.1).any fun old => old.same e.2) := by
  simp only [update]
  split <;> rfl

/-- No value differs, as values are compared. -/
def Unchanged (old new : List (String × Setting)) : Prop :=
  ∀ key, Option.Rel (fun x y => x = y ∨ x.same y = true) (old.lookup key) (new.lookup key)

theorem Unchanged.refl (settings : List (String × Setting)) : Unchanged settings settings :=
  fun _ => Setting.rel_refl (fun _ => .inl rfl) _

theorem Unchanged.trans {old new later : List (String × Setting)} (first : Unchanged old new)
    (second : Unchanged new later) : Unchanged old later := by
  intro key
  refine Setting.rel_trans ?_ (first key) (second key)
  rintro x y z (rfl | same) (rfl | same')
  · exact .inl rfl
  · exact .inr same'
  · exact .inr same
  · exact .inr (Setting.same_trans same same')

/-- Values that change nothing are equal to those before. -/
theorem update_unchanged (unchanged : (c.update values present).1.isUnsaved = false) :
    Unchanged c.settings (c.update values present).1.settings := by
  intro key
  rw [update_settings, lookup_replaced]
  cases found : values.reverse.lookup key with
  | none => exact Unchanged.refl _ key
  | some x =>
    obtain ⟨before, after, split, _⟩ := List.lookup_eq_some_iff.mp found
    have member : (key, x) ∈ values := by
      rw [← List.mem_reverse, split]
      simp
    rw [update_isUnsaved, List.any_eq_false] at unchanged
    have kept := unchanged _ member
    cases old : c.settings.lookup key with
    | none => simp [old] at kept
    | some y => exact .some (.inr (by simpa [old] using kept))

theorem update_ok (updated : (c.update values present).2 = .ok ()) :
    ∃ ports, Ports.sorted present = .ok ports ∧
      (c.update values present).1.isUsable =
        isPresent ((c.update values present).1.get "com_port") ports := by
  simp only [update] at updated ⊢
  split at updated
  · rename_i ports sorted
    exact ⟨ports, sorted, rfl⟩
  · cases updated

/-- All that overrides can do: they are refused, as they stand or together with the settings, or they
say nothing, or they change the settings. -/
inductive Overrides.Does (o : Overrides) (c : Config) (present : List String) :
    Config × Except Failure Unit → Prop where
  | refused (f : Failure) : o.values = .error f → Does o c present (c, .error f)
  | nothing : o.values = .ok [] → Does o c present (c, .ok ())
  | invalid (values : List (String × Setting)) (fault : SettingFault) : o.values = .ok values →
      validate (replaced c.settings values) = .error (.setting fault) →
      Does o c present (c, .error (.configuration (.override fault)))
  | illTyped (values : List (String × Setting)) (f : Failure) : o.values = .ok values →
      validate (replaced c.settings values) = .error f → (∀ fault, f ≠ .setting fault) →
      Does o c present (c, .error f)
  | changes (values : List (String × Setting)) : o.values = .ok values → values ≠ [] →
      validate (replaced c.settings values) = .ok () → Does o c present (c.update values present)

theorem override_does (c : Config) (o : Overrides) (present : List String) :
    o.Does c present (c.override o present) := by
  simp only [override]
  split
  · exact .refused _ ‹_›
  · exact .nothing ‹_›
  · rename_i values some_values given
    split
    · exact .invalid values _ given ‹_›
    · rename_i f other refused
      exact .illTyped values f given refused other
    · exact .changes values given some_values ‹_›

theorem override_settings (c : Config) (o : Overrides) (present : List String) :
    (c.override o present).1.settings = c.settings ∨
      ∃ values, validate (replaced c.settings values) = .ok () ∧
        (c.override o present).1.settings = replaced c.settings values := by
  have does := override_does c o present
  generalize c.override o present = overridden at does
  cases does with
  | refused | nothing | invalid | illTyped => exact .inl rfl
  | changes values given _ accepted => exact .inr ⟨values, accepted, update_settings c values present⟩

theorem override_ok (overridden : c₀.override o present = (c, .ok ())) :
    c₀ = c ∨ ∃ values, c₀.update values present = (c, .ok ()) := by
  have does := override_does c₀ o present
  generalize c₀.override o present = result at does overridden
  cases does with
  | refused | invalid | illTyped => cases overridden
  | nothing => exact .inl (congrArg Prod.fst overridden)
  | changes values => exact .inr ⟨values, overridden⟩

/-! ## Keys -/

/-- All keys of the defaults are there. -/
def Complete (settings : List (String × Setting)) : Prop :=
  ∀ key, (defaults.lookup key).isSome → (settings.lookup key).isSome

theorem Complete.replaced (complete : Complete settings) (values : List (String × Setting)) :
    Complete (replaced settings values) := by
  intro key default
  rw [lookup_replaced, Option.isSome_or, complete key default, Bool.or_true]

theorem readSettings_complete (read : (readSettings format file).2 = .ok settings) :
    Complete settings := by
  have reads := readSettings_reads format file
  generalize readSettings format file = result at reads read
  have complete : Complete defaults := fun _ known => known
  cases reads with
  | kept notices =>
    cases read
    exact complete
  | failed f => cases read
  | accepted loaded accepted =>
    cases read
    exact complete.replaced loaded

theorem load_complete (loaded : (load format file present).2 = .ok c) : Complete c.settings := by
  obtain ⟨ports, read, _⟩ := load_ok loaded
  exact readSettings_complete read

theorem Complete.override (complete : Complete c.settings) (o : Overrides) (present : List String) :
    Complete (c.override o present).1.settings := by
  rcases override_settings c o present with same | ⟨values, _, changed⟩
  · rwa [same]
  · rw [changed]
    exact complete.replaced values

end Config

end MeterPolling
