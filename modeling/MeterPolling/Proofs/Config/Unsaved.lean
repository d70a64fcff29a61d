import MeterPolling.Proofs.Config.Override
/-!
What the mark of unsaved changes tells. It speaks of the latest change alone: after a change that was
not saved, another one that changes no value takes the mark away again. Only when the mark was never
set since the configuration was loaded or saved, the settings are what they were then.
-/
namespace MeterPolling.Config

variable {base : List (String × Setting)} {reported : Bool} {c : Config} {o : Overrides}
  {format : Format} {file : File} {present : List String}

theorem override_unchanged (unchanged : (c.override o present).1.isUnsaved = false) :
    Unchanged c.settings (c.override o present).1.settings := by
  have does := override_does c o present
  generalize c.override o present = result at does unchanged
  cases does with
  | refused | nothing | invalid | illTyped => exact .refl _
  | changes values => exact update_unchanged unchanged

/-- A save succeeds and takes the mark away, or it leaves the configuration as it is. -/
theorem save_cases (c : Config) (format : Format) (file : File) :
    (c.save format file).2.2.1 = [.configurationSaved] ∧
        (c.save format file).1 = { c with isUnsaved := false } ∨
      (c.save format file).2.2.1 ≠ [.configurationSaved] ∧ (c.save format file).1 = c := by
  unfold save
  split
  · exact .inr ⟨by simp, rfl⟩
  · split
    · exact .inl ⟨rfl, rfl⟩
    · exact .inr ⟨by simp, rfl⟩

/-- A configuration after any changes and saves, with the settings that it had when it was loaded or
saved last, and with whether it was marked since then. -/
inductive History (format : Format) : List (String × Setting) → Bool → Config → Prop where
  | loaded {c : Config} (file : File) (present : List String) :
      (load format file present).2 = .ok c → History format c.settings false c
  | updated {base : List (String × Setting)} {reported : Bool} {c : Config}
      (values : List (String × Setting)) (present : List String) : History format base reported c →
      History format base (reported || (c.update values present).1.isUnsaved)
        (c.update values present).1
  | overridden {base : List (String × Setting)} {reported : Bool} {c : Config} (o : Overrides)
      (present : List String) : History format base reported c →
      History format base (reported || (c.override o present).1.isUnsaved)
        (c.override o present).1
  | saved {base : List (String × Setting)} {reported : Bool} {c : Config} (file : File) :
      History format base reported c → (c.save format file).2.2.1 = [.configurationSaved] →
      History format c.settings false (c.save format file).1
  | kept {base : List (String × Setting)} {reported : Bool} {c : Config} (file : File) :
      History format base reported c → (c.save format file).2.2.1 ≠ [.configurationSaved] →
      History format base reported (c.save format file).1

/-- A configuration that was not marked since it was loaded or saved has the settings of then. -/
theorem History.unchanged (history : History format base reported c) (unmarked : reported = false) :
    c.isUnsaved = false ∧ Unchanged base c.settings := by
  induction history with
  | loaded file present loaded =>
    obtain ⟨_, _, _, _, unsaved⟩ := load_ok loaded
    exact ⟨unsaved, .refl _⟩
  | updated values present _ ih =>
    obtain ⟨before, now⟩ := Bool.or_eq_false_iff.mp unmarked
    exact ⟨now, (ih before).2.trans (update_unchanged now)⟩
  | overridden o present _ ih =>
    obtain ⟨before, now⟩ := Bool.or_eq_false_iff.mp unmarked
    exact ⟨now, (ih before).2.trans (override_unchanged now)⟩
  | @saved _ _ c file _ succeeded _ =>
    rcases save_cases c format file with ⟨_, left⟩ | ⟨failed, _⟩
    · rw [left]
      exact ⟨rfl, .refl _⟩
    · exact absurd succeeded failed
  | @kept _ _ c file _ failed ih =>
    rcases save_cases c format file with ⟨succeeded, _⟩ | ⟨_, left⟩
    · exact absurd succeeded failed
    · rw [left]
      exact ih unmarked

/-- The mark is about the latest change. After any changes and saves, one that leaves no mark has
changed no value; and if no mark was left at all since the configuration was loaded or saved, there is
none now and the settings are what they were then. -/
theorem History.mark_tells_of_latest_change (history : History format base reported c) :
    (reported = false → c.isUnsaved = false ∧ Unchanged base c.settings) ∧
      (∀ values present, (c.update values present).1.isUnsaved = false →
        Unchanged c.settings (c.update values present).1.settings) ∧
      ∀ o present, (c.override o present).1.isUnsaved = false →
        Unchanged c.settings (c.override o present).1.settings :=
  ⟨history.unchanged, fun _ _ => update_unchanged, fun _ _ => override_unchanged⟩

def slowed : Config := (unset.update [("baud", .number 2400)] ["COM3"]).1

def sameRate : List (String × Setting) := [("baud", .number (.real (.ofQuotient false 2400 1)))]

theorem History.same_rate_leaves_no_mark :
    History .toml slowed.settings false ((slowed.save .toml .missing).1.update sameRate ["COM3"]).1 ∧
      Unchanged slowed.settings
        ((slowed.save .toml .missing).1.update sameRate ["COM3"]).1.settings := by
  have saved : (slowed.save .toml .missing).2.2.1 = [.configurationSaved] := by decide +kernel
  have unmarked :
      (false || ((slowed.save .toml .missing).1.update sameRate ["COM3"]).1.isUnsaved) = false := by
    decide +kernel
  have first : History .toml unset.settings _ slowed :=
    .updated [("baud", .number 2400)] ["COM3"] (.loaded .missing ["COM3"] unset_loads)
  have written : History .toml slowed.settings false (slowed.save .toml .missing).1 :=
    .saved .missing first saved
  have history := History.updated sameRate ["COM3"] written
  have told := (History.mark_tells_of_latest_change history).1 unmarked
  rw [unmarked] at history
  exact ⟨history, told.2⟩

/-- A change that was not saved is forgotten as soon as another one changes nothing. -/
theorem History.change_is_forgotten :
    ¬ ∀ base reported c, History .toml base reported c → c.isUnsaved = false →
      Unchanged base c.settings := by
  intro remembered
  have changed := History.updated [("baud", .number 2400)] ["COM3"]
    (.loaded .missing ["COM3"] unset_loads)
  have unmarked : (slowed.update [] ["COM3"]).1.isUnsaved = false := by decide +kernel
  have same := remembered _ _ _ (.updated [] ["COM3"] changed) unmarked "baud"
  have before : unset.settings.lookup "baud" = some (.number 9600) := by decide +kernel
  have after : (slowed.update [] ["COM3"]).1.settings.lookup "baud" = some (.number 2400) := by
    decide +kernel
  change Option.Rel _ _ ((slowed.update [] ["COM3"]).1.settings.lookup "baud") at same
  rw [before, after] at same
  cases same with
  | some same =>
    rcases same with equal | equal
    · cases equal
    · exact absurd equal (by decide +kernel)

end MeterPolling.Config
