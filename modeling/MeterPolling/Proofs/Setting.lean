import Mathlib.Data.List.Forall2
import MeterPolling.Proofs.Number
import MeterPolling.Toml.Place
/-!
Values of settings side by side. Two values correspond when they are built alike, whatever the order
of the entries in their tables, and correspond in all that is neither a list nor a table. So do a
value that was written and the one that is read back (`Alike`), and values that count as equal, a NaN
to itself as well (`Equal`).
-/
namespace MeterPolling.Setting

/-! ## Entries of tables -/

section Entries

variable {α : Type} {entries : List (String × α)} {key other : String} {x : α}

theorem lookup_entry (key : String) (x : α) (entries : List (String × α)) (other : String) :
    ((key, x) :: entries).lookup other = if other = key then some x else entries.lookup other := by
  by_cases same : other = key
  · subst same
    simp
  · have test : (other == key) = false := beq_eq_false_iff_ne.mpr same
    simp only [List.lookup_cons, test, same, if_false]

theorem lookup_putEntry (key : String) (x : α) (entries : List (String × α)) (other : String) :
    (putEntry key x entries).lookup other = if other = key then some x else entries.lookup other := by
  induction entries with
  | nil => exact lookup_entry key x [] other
  | cons entry rest ih =>
    obtain ⟨k, old⟩ := entry
    by_cases there : k = key
    · subst there
      simp only [putEntry, beq_self_eq_true, if_true, lookup_entry]
      split <;> rfl
    · have test : (k == key) = false := beq_eq_false_iff_ne.mpr there
      simp only [putEntry, test, Bool.false_eq_true, if_false, lookup_entry, ih]
      by_cases same : other = k
      · subst same
        simp [there]
      · simp [same]

theorem keys_putEntry (key : String) (x : α) (entries : List (String × α)) :
    (putEntry key x entries).map Prod.fst =
      if key ∈ entries.map Prod.fst then entries.map Prod.fst
      else entries.map Prod.fst ++ [key] := by
  induction entries with
  | nil => rfl
  | cons entry rest ih =>
    obtain ⟨k, old⟩ := entry
    by_cases there : k = key
    · subst there
      simp [putEntry]
    · have test : (k == key) = false := beq_eq_false_iff_ne.mpr there
      simp only [putEntry, test, Bool.false_eq_true, if_false, List.map_cons, ih, List.mem_cons,
        Ne.symm there, false_or]
      split <;> rfl

theorem putEntry_nodup (key : String) (x : α) (distinct : (entries.map Prod.fst).Nodup) :
    ((putEntry key x entries).map Prod.fst).Nodup := by
  rw [keys_putEntry]
  split
  · exact distinct
  · rename_i fresh
    refine List.nodup_append.mpr ⟨distinct, List.pairwise_singleton _ key, ?_⟩
    intro k known other new same
    obtain rfl := List.mem_singleton.mp new
    exact fresh (same ▸ known)

theorem lookup_isSome_iff : (entries.lookup key).isSome ↔ key ∈ entries.map Prod.fst := by
  rw [List.lookup_isSome_iff, List.mem_map]
  simp only [beq_iff_eq, @eq_comm _ key]

/-- Where no key comes twice, an entry is found whichever way the list is read. -/
theorem lookup_reverse (distinct : (entries.map Prod.fst).Nodup) (key : String) :
    entries.reverse.lookup key = entries.lookup key := by
  induction entries with
  | nil => rfl
  | cons entry rest ih =>
    obtain ⟨k, old⟩ := entry
    obtain ⟨fresh, distinct⟩ := List.nodup_cons.mp distinct
    rw [List.reverse_cons, List.lookup_append, ih distinct, lookup_entry, lookup_entry]
    by_cases same : key = k
    · subst same
      have absent : rest.lookup key = none :=
        Option.not_isSome_iff_eq_none.mp fun known => fresh (lookup_isSome_iff.mp known)
      simp [absent]
    · simp [same]

theorem lookup_eq_some_iff (distinct : (entries.map Prod.fst).Nodup) :
    entries.lookup key = some x ↔ (key, x) ∈ entries := by
  induction entries with
  | nil => simp
  | cons entry rest ih =>
    obtain ⟨k, old⟩ := entry
    obtain ⟨fresh, distinct⟩ := List.nodup_cons.mp distinct
    rw [lookup_entry, List.mem_cons, Prod.mk.injEq]
    by_cases same : key = k
    · subst same
      have absent : (key, x) ∉ rest := fun there => fresh (List.mem_map.mpr ⟨_, there, rfl⟩)
      simp [absent, eq_comm]
    · simp [same, ih distinct]

end Entries

/-! ## Values that may be missing -/

section Options

variable {r s : Setting → Setting → Prop} {x? y? : Option Setting}

theorem rel_mono (weaker : ∀ x y, r x y → s x y) (related : Option.Rel r x? y?) :
    Option.Rel s x? y? := by
  cases related with
  | some related => exact .some (weaker _ _ related)
  | none => exact .none

theorem rel_refl (refl : ∀ x, r x x) (x? : Option Setting) : Option.Rel r x? x? := by
  cases x? with
  | none => exact .none
  | some x => exact .some (refl x)

theorem rel_trans {z? : Option Setting} (trans : ∀ x y z, r x y → r y z → r x z)
    (first : Option.Rel r x? y?) (second : Option.Rel r y? z?) : Option.Rel r x? z? := by
  cases first with
  | none => exact second
  | some first =>
    cases second with
    | some second => exact .some (trans _ _ _ first second)

theorem rel_isSome (related : Option.Rel r x? y?) : x?.isSome = y?.isSome := by
  cases related <;> rfl

theorem rel_getD (related : Option.Rel r x? y?) {default : Setting} (same : r default default) :
    r (x?.getD default) (y?.getD default) := by
  cases related with
  | some related => exact related
  | none => exact same

end Options

/-! ## Values that correspond -/

inductive Related (leaf : Setting → Setting → Prop) : Setting → Setting → Prop where
  | leaf {x y : Setting} : leaf x y → Related leaf x y
  | list {xs ys : List Setting} : List.Forall₂ (Related leaf) xs ys →
      Related leaf (.list xs) (.list ys)
  | table {a b : List (String × Setting)} :
      (∀ key, Option.Rel (Related leaf) (a.lookup key) (b.lookup key)) →
      Related leaf (.table a) (.table b)

/-- The same value but for the order of entries. -/
abbrev Alike : Setting → Setting → Prop := Related Eq

/-- Equal as values are compared, but a NaN is equal to itself. -/
abbrev Equal : Setting → Setting → Prop := Related fun x y => x = y ∨ x.same y = true

theorem Related.mono {coarse fine : Setting → Setting → Prop} {x y : Setting}
    (weaker : ∀ x y, fine x y → coarse x y) (related : Related fine x y) : Related coarse x y := by
  refine @Related.rec fine (fun x y _ => Related coarse x y)
    (fun xs ys _ => List.Forall₂ (Related coarse) xs ys)
    (fun a b _ => Option.Rel (Related coarse) a b)
    ?leaf ?list ?table ?nil ?cons ?some ?none x y related
  case leaf => exact fun equal => .leaf (weaker _ _ equal)
  case list => exact fun _ items => .list items
  case table => exact fun _ entries => .table entries
  case nil => exact .nil
  case cons => exact fun _ _ item items => .cons item items
  case some => exact fun _ value => .some value
  case none => exact .none

theorem Alike.equal {x y : Setting} (alike : Alike x y) : Equal x y :=
  alike.mono fun _ _ => .inl

/-- Neither a list nor a table. -/
def isPlain : Setting → Bool
  | .list _ | .table _ => false
  | _ => true

variable {x y : Setting} {xs ys : List Setting} {a b : List (String × Setting)}

theorem Alike.eq_of_plain (alike : Alike y x) (plain : x.isPlain = true) : y = x := by
  cases alike with
  | leaf same => exact same
  | list | table => cases plain

theorem Alike.items_eq (alike : List.Forall₂ Alike ys xs) (plain : ∀ x ∈ xs, x.isPlain = true) :
    ys = xs := by
  induction alike with
  | nil => rfl
  | cons item _ ih =>
    rw [item.eq_of_plain (plain _ List.mem_cons_self)]
    rw [ih fun x member => plain x (List.mem_cons_of_mem _ member)]

theorem Alike.refl_option (x : Option Setting) : Option.Rel Alike x x :=
  rel_refl (fun _ => .leaf rfl) x

theorem Alike.entries (alike : Alike (.table a) (.table b)) (key : String) :
    Option.Rel Alike (a.lookup key) (b.lookup key) := by
  cases alike with
  | leaf same =>
    cases same
    exact refl_option _
  | table entries => exact entries key

theorem same_text_iff {text : String} : (Setting.text text).same x = true ↔ x = .text text := by
  cases x with
  | text other =>
    simp only [same, beq_iff_eq, Setting.text.injEq]
    exact eq_comm
  | _ => simp [same]

theorem eq_text_of_same {text : String} (same : x.same (.text text) = true) : x = .text text := by
  cases x <;> simp_all [Setting.same, number?]

theorem Equal.eq_text {text : String} (equal : Equal x (.text text)) : x = .text text := by
  cases equal with
  | leaf equal =>
    rcases equal with same | same
    · exact same
    · exact eq_text_of_same same

theorem isPlain_of_same {n : Number} (same : (Setting.number n).same x = true) :
    x.isPlain = true := by
  cases x <;> simp_all [Setting.same, number?, isPlain]

/-! ## Equality of values -/

theorem same_number {m : Number} (number : x.number? = some m) :
    x.same y = true ↔ ∃ n, y.number? = some n ∧ m.same n = true := by
  cases x with
  | flag value =>
    cases number
    cases found : y.number? <;> simp [same, found]
  | number value =>
    cases number
    cases found : y.number? <;> simp [same, found]
  | _ => cases number

theorem sameEntries_cons {key : String} (same : sameEntries ((key, x) :: a) b = true) :
    (∃ y, b.lookup key = some y ∧ x.same y = true) ∧ sameEntries a b = true := by
  obtain ⟨here, later⟩ := Bool.and_eq_true_iff.mp same
  refine ⟨?_, later⟩
  cases found : b.lookup key with
  | none => simp [found] at here
  | some y => exact ⟨y, rfl, by simpa [found] using here⟩

theorem sameEntries_lookup {key : String} (same : sameEntries a b = true)
    (found : a.lookup key = some x) : ∃ y, b.lookup key = some y ∧ x.same y = true := by
  induction a with
  | nil => cases found
  | cons entry rest ih =>
    obtain ⟨k, first⟩ := entry
    obtain ⟨here, later⟩ := sameEntries_cons same
    rw [lookup_entry] at found
    split at found
    · rename_i there
      cases found
      rwa [there]
    · exact ih later found

mutual

/-- Values that are equal to the same value are equal. -/
theorem same_trans {x y z : Setting} (first : x.same y = true) (second : y.same z = true) :
    x.same z = true := by
  cases x with
  | list xs =>
    cases y with
    | list ys =>
      cases z with
      | list zs => exact sameItems_trans first second
      | _ => cases second
    | _ => cases first
  | table a =>
    cases y with
    | table b =>
      cases z with
      | table c =>
        simp only [same, Bool.and_eq_true, beq_iff_eq] at first second ⊢
        exact ⟨first.1.trans second.1, sameEntries_trans first.2 second.2⟩
      | _ => cases second
    | _ => cases first
  | flag value =>
    obtain ⟨n, number, equal⟩ := (same_number rfl).mp first
    obtain ⟨k, number', equal'⟩ := (same_number number).mp second
    exact (same_number rfl).mpr ⟨k, number', Number.same_trans equal equal'⟩
  | number value =>
    obtain ⟨n, number, equal⟩ := (same_number rfl).mp first
    obtain ⟨k, number', equal'⟩ := (same_number number).mp second
    exact (same_number rfl).mpr ⟨k, number', Number.same_trans equal equal'⟩
  | absent | text value | moment value => cases y <;> cases z <;> simp_all [same]
termination_by structural x

theorem sameItems_trans {xs ys zs : List Setting} (first : sameItems xs ys = true)
    (second : sameItems ys zs = true) : sameItems xs zs = true := by
  cases xs with
  | nil =>
    cases ys with
    | nil => exact second
    | cons y ys => cases first
  | cons x xs =>
    cases ys with
    | nil => cases first
    | cons y ys =>
      cases zs with
      | nil => cases second
      | cons z zs =>
        simp only [sameItems, Bool.and_eq_true] at first second ⊢
        exact ⟨same_trans first.1 second.1, sameItems_trans first.2 second.2⟩
termination_by structural xs

theorem sameEntries_trans {a b c : List (String × Setting)} (first : sameEntries a b = true)
    (second : sameEntries b c = true) : sameEntries a c = true := by
  cases a with
  | nil => rfl
  | cons entry rest =>
    obtain ⟨k, x⟩ := entry
    obtain ⟨⟨y, found, equal⟩, later⟩ := sameEntries_cons first
    obtain ⟨z, found', equal'⟩ := sameEntries_lookup second found
    simp only [sameEntries, found', Bool.and_eq_true]
    exact ⟨same_trans equal equal', sameEntries_trans later second⟩
termination_by structural a

end

/-! ## Identity of values -/

mutual

/-- Whether two values are built in the same way from the same values. -/
def identical : Setting → Setting → Bool
  | .absent, .absent => true
  | .flag a, .flag b => a == b
  | .number a, .number b => a == b
  | .text a, .text b => a == b
  | .list a, .list b => identicalItems a b
  | .table a, .table b => identicalEntries a b
  | .moment a, .moment b => a == b
  | _, _ => false

def identicalItems : List Setting → List Setting → Bool
  | [], [] => true
  | x :: xs, y :: ys => x.identical y && identicalItems xs ys
  | _, _ => false

def identicalEntries : List (String × Setting) → List (String × Setting) → Bool
  | [], [] => true
  | (k, x) :: a, (l, y) :: b => k == l && x.identical y && identicalEntries a b
  | _, _ => false

end

mutual

theorem identical_iff (x y : Setting) : x.identical y = true ↔ x = y := by
  cases x with
  | list a =>
    cases y with
    | list b => simpa [identical] using identicalItems_iff a b
    | _ => simp [identical]
  | table a =>
    cases y with
    | table b => simpa [identical] using identicalEntries_iff a b
    | _ => simp [identical]
  | _ => cases y <;> simp [identical]

theorem identicalItems_iff (xs ys : List Setting) : identicalItems xs ys = true ↔ xs = ys := by
  cases xs with
  | nil => cases ys <;> simp [identicalItems]
  | cons x xs =>
    cases ys with
    | nil => simp [identicalItems]
    | cons y ys => simp [identicalItems, identical_iff x y, identicalItems_iff xs ys]

theorem identicalEntries_iff (a b : List (String × Setting)) :
    identicalEntries a b = true ↔ a = b := by
  cases a with
  | nil => cases b <;> simp [identicalEntries]
  | cons e a =>
    obtain ⟨k, x⟩ := e
    cases b with
    | nil => simp [identicalEntries]
    | cons f b =>
      obtain ⟨l, y⟩ := f
      simp [identicalEntries, identical_iff x y, identicalEntries_iff a b]

end

instance : DecidableEq Setting := fun x y => decidable_of_iff _ (identical_iff x y)

end MeterPolling.Setting
