import Mathlib.Data.List.Nodup
import MeterPolling.Proofs.Config.Change
import MeterPolling.Proofs.Sorting
/-!
Discovery of the producers and the order in which they are tried. Whatever is broken or exposes
something else, and in whatever order packages are looked at, the producers that packages expose are
there, ascending by their names. An order that names known producers only, some of them perhaps more
than once, arranges all producers: each stands there once. Of names that are unknown the first one is
reported.
-/
namespace MeterPolling

/-! ## First appearances -/

section Appearances

variable {names : List String} {a b : String}

/-- What is left out of a list leaves the first appearances of the others in their order. -/
theorem idxOf_lt_of_filter {keep : String → Bool} (keepA : keep a = true) (keepB : keep b = true)
    (before : (names.filter keep).idxOf a < (names.filter keep).idxOf b) :
    names.idxOf a < names.idxOf b := by
  induction names with
  | nil => simp at before
  | cons c rest ih =>
    by_cases atA : c = a
    · subst atA
      have other : c ≠ b := by
        rintro rfl
        exact Nat.lt_irrefl _ before
      simp [List.idxOf_cons_ne rest other]
    by_cases atB : c = b
    · subst atB
      simp [keepB] at before
    rw [List.idxOf_cons_ne rest atA, List.idxOf_cons_ne rest atB]
    refine Nat.succ_lt_succ (ih ?_)
    cases kept : keep c with
    | false => simpa [kept] using before
    | true =>
      rw [List.filter_cons_of_pos kept, List.idxOf_cons_ne _ atA, List.idxOf_cons_ne _ atB] at before
      exact Nat.lt_of_succ_lt_succ before

theorem eraseDups_appear (names : List String) :
    names.eraseDups.Pairwise fun a b => names.idxOf a < names.idxOf b := by
  cases names with
  | nil => simp
  | cons c rest =>
    rw [List.eraseDups_cons, List.pairwise_cons]
    have others : ∀ a ∈ (rest.filter fun d => !d == c).eraseDups, c ≠ a := by
      intro a member
      have kept := (List.mem_filter.mp (List.mem_eraseDups.mp member)).2
      rintro rfl
      simp at kept
    constructor
    · intro a member
      simp [List.idxOf_cons_ne rest (others a member)]
    · refine (eraseDups_appear (rest.filter fun d => !d == c)).imp_of_mem ?_
      intro a b memberA memberB before
      rw [List.idxOf_cons_ne rest (others a memberA), List.idxOf_cons_ne rest (others b memberB)]
      have keep : ∀ d, c ≠ d → (!d == c) = true := fun d other => by simpa using other.symm
      exact Nat.succ_lt_succ
        (idxOf_lt_of_filter (keep a (others a memberA)) (keep b (others b memberB)) before)
termination_by names.length
decreasing_by exact Nat.lt_succ_of_le (List.length_filter_le _ _)

theorem eraseDups_nodup (names : List String) : names.eraseDups.Nodup :=
  (eraseDups_appear names).imp fun before same => by
    subst same
    exact Nat.lt_irrefl _ before

/-- Where no two are alike, none is left out. -/
theorem eraseDupsBy_of_apart {α : Type} {alike : α → α → Bool} {xs : List α}
    (apart : xs.Pairwise fun x y => alike y x = false) : xs.eraseDupsBy alike = xs := by
  induction xs with
  | nil => rfl
  | cons x rest ih =>
    obtain ⟨first, later⟩ := List.pairwise_cons.mp apart
    have kept : (rest.filter fun y => decide (alike y x = false)) = rest :=
      List.filter_eq_self.mpr fun y member => decide_eq_true (first y member)
    rw [List.eraseDupsBy_cons, kept, ih later]

theorem eraseDups_distinct (distinct : names.Nodup) : names.eraseDups = names :=
  eraseDupsBy_of_apart (distinct.imp fun other => beq_false_of_ne other.symm)

end Appearances

namespace Registry

variable {findings permuted : List (String × Finding)} {name : String} {p : Producer} {r : Registry}
  {order : List String} {entries : List (String × Producer)}

/-! ## Discovery -/

def exposed (findings : List (String × Finding)) : List (String × Producer) :=
  findings.filterMap fun e => (examine e.1 e.2).1.map fun p => (e.1, p)

theorem mem_exposed : (name, p) ∈ exposed findings ↔ (name, .package (.producer p)) ∈ findings := by
  rw [exposed, List.mem_filterMap]
  constructor
  · rintro ⟨⟨name', finding⟩, member, found⟩
    obtain ⟨p', there, same⟩ := Option.map_eq_some_iff.mp found
    cases same
    cases finding with
    | plainModule => cases there
    | broken => cases there
    | package exposure =>
      cases exposure with
      | producer p' =>
        cases there
        exact member
      | nothing => cases there
      | somethingElse => cases there
  · intro member
    exact ⟨_, member, rfl⟩

theorem exposed_distinct (distinct : (findings.map Prod.fst).Nodup) :
    ((exposed findings).map Prod.fst).Nodup := by
  refine List.pairwise_map.mpr ((List.pairwise_map.mp distinct).filterMap _ ?_)
  intro e e' apart x found x' found'
  obtain ⟨_, _, rfl⟩ := Option.map_eq_some_iff.mp found
  obtain ⟨_, _, rfl⟩ := Option.map_eq_some_iff.mp found'
  exact apart

theorem discover_entries (distinct : (findings.map Prod.fst).Nodup) :
    (discover findings).1.entries = (exposed findings).mergeSort fun a b => a.1 ≤ b.1 := by
  have all : (findings.eraseDupsBy fun a b => a.1 == b.1) = findings :=
    eraseDupsBy_of_apart
      ((List.pairwise_map.mp distinct).imp fun other => beq_false_of_ne other.symm)
  simp only [discover, all, List.filterMap_map]
  rfl

def Ascending (r : Registry) : Prop := r.names.Pairwise (· < ·)

theorem discover_ascending (distinct : (findings.map Prod.fst).Nodup) :
    (discover findings).1.Ascending := by
  have perm := List.mergeSort_perm (exposed findings) fun a b => a.1 ≤ b.1
  have apart := List.pairwise_map.mp ((perm.map Prod.fst).nodup_iff.mpr (exposed_distinct distinct))
  have sorted := mergeSort_ascending Prod.fst (exposed findings)
  rw [Ascending, names, discover_entries distinct, List.pairwise_map]
  refine sorted.imp₂ (fun a b below other => ?_) apart
  exact String.not_le.mp fun above => other (String.le_antisymm below above)

theorem mem_discover (distinct : (findings.map Prod.fst).Nodup) :
    (name, p) ∈ (discover findings).1.entries ↔ (name, .package (.producer p)) ∈ findings := by
  rw [discover_entries distinct, List.mem_mergeSort, mem_exposed]

/-- The order of discovery does not matter. -/
theorem discover_perm (distinct : (findings.map Prod.fst).Nodup) (perm : findings.Perm permuted) :
    (discover permuted).1 = (discover findings).1 := by
  have distinct' : (permuted.map Prod.fst).Nodup := (perm.map Prod.fst).nodup_iff.mp distinct
  have ascending := List.pairwise_map.mp (discover_ascending distinct)
  have ascending' := List.pairwise_map.mp (discover_ascending distinct')
  have same : (discover permuted).1.entries.Perm (discover findings).1.entries := by
    rw [discover_entries distinct, discover_entries distinct']
    exact (List.mergeSort_perm _ _).trans
      ((perm.symm.filterMap _).trans (List.mergeSort_perm _ _).symm)
  have equal := same.eq_of_pairwise
    (fun a b _ _ less more => absurd more (String.lt_asymm less)) ascending' ascending
  exact congrArg Registry.mk equal

/-! ## Producers by name -/

theorem Ascending.distinct (ascending : r.Ascending) : r.names.Nodup :=
  ascending.imp fun less => String.ne_of_lt less

theorem mem_names : name ∈ r.names ↔ ∃ p, (name, p) ∈ r.entries := by
  simp [names]

theorem get_known (ascending : r.Ascending) (there : (name, p) ∈ r.entries) :
    r.get name = .ok p := by
  have found := (Setting.lookup_eq_some_iff ascending.distinct).mpr there
  rw [get, found]

theorem get_unknown (unknown : name ∉ r.names) :
    r.get name = .error (.configuration (.unknownProducer name r.names)) := by
  have missing : r.entries.lookup name = none :=
    Option.not_isSome_iff_eq_none.mp fun found => unknown (Setting.lookup_isSome_iff.mp found)
  rw [get, missing]

/-- The producers of some of the entries, by the names of the entries. -/
theorem mapM_get (ascending : r.Ascending) (known : ∀ e ∈ entries, e ∈ r.entries) :
    (entries.map Prod.fst).mapM r.get = .ok (entries.map Prod.snd) := by
  rw [mapM_ok_iff, List.forall₂_map_left_iff, List.forall₂_map_right_iff, List.forall₂_same]
  exact fun e member => get_known ascending (known e member)

theorem exists_entries {names : List String} (known : ∀ name ∈ names, name ∈ r.names) :
    ∃ entries : List (String × Producer), entries.map Prod.fst = names ∧
      ∀ e ∈ entries, e ∈ r.entries := by
  induction names with
  | nil => exact ⟨[], rfl, by simp⟩
  | cons name rest ih =>
    obtain ⟨first, later⟩ := List.forall_mem_cons.mp known
    obtain ⟨p, there⟩ := mem_names.mp first
    obtain ⟨entries, same, others⟩ := ih later
    exact ⟨(name, p) :: entries, by simp [same], List.forall_mem_cons.mpr ⟨there, others⟩⟩

/-! ## Orders -/

/-- What stands before what, in an order given by the user: the named ones by their first
appearance, then the others by name. -/
inductive Before (order : List String) : String → String → Prop where
  | appears {a b : String} : a ∈ order → b ∈ order → order.idxOf a < order.idxOf b →
      Before order a b
  | named {a b : String} : a ∈ order → b ∉ order → Before order a b
  | byName {a b : String} : a ∉ order → b ∉ order → a < b → Before order a b

/-- What an order comes to: all producers, each once, or a report of its first unknown name. -/
inductive Orders (r : Registry) (order : List String) : Except Failure (List Producer) → Prop where
  | arranged (entries : List (String × Producer)) : (∀ name ∈ order, name ∈ r.names) →
      entries.Perm r.entries → (entries.map Prod.fst).Pairwise (Before order) →
      r.ordered (entries.map Prod.fst) = .ok (entries.map Prod.snd) →
      Orders r order (.ok (entries.map Prod.snd))
  | unknown (before : List String) (name : String) (after : List String) :
      order = before ++ name :: after → (∀ name ∈ before, name ∈ r.names) → name ∉ r.names →
      Orders r order (.error (.configuration (.unknownProducer name r.names)))

/-- The names of all entries, in any order, are an order that comes to just these entries. -/
theorem ordered_names (ascending : r.Ascending) (perm : entries.Perm r.entries) :
    r.ordered (entries.map Prod.fst) = .ok (entries.map Prod.snd) := by
  have same : (entries.map Prod.fst).Perm r.names := perm.map Prod.fst
  have none : (r.entries.filter fun e => !(entries.map Prod.fst).contains e.1) = [] := by
    refine List.filter_eq_nil_iff.mpr fun e member => ?_
    have there : e.1 ∈ entries.map Prod.fst := same.mem_iff.mpr (List.mem_map_of_mem member)
    simpa using there
  rw [ordered, eraseDups_distinct (same.nodup_iff.mpr ascending.distinct),
    mapM_get ascending fun e member => perm.mem_iff.mp member, none]
  simp [bind, Except.bind, pure, Except.pure]

/-- The entries that an order names, and those that it does not name, are all entries. -/
theorem named_perm (ascending : r.Ascending) (same : entries.map Prod.fst = order.eraseDups)
    (there : ∀ e ∈ entries, e ∈ r.entries) :
    (entries ++ r.entries.filter fun e => !order.contains e.1).Perm r.entries := by
  have distinct : r.entries.Nodup := List.Nodup.of_map Prod.fst ascending.distinct
  have once : entries.Nodup := List.Nodup.of_map Prod.fst (same ▸ eraseDups_nodup order)
  have named : entries.Perm (r.entries.filter fun e => order.contains e.1) := by
    refine (List.perm_ext_iff_of_nodup once (distinct.filter _)).mpr fun e => ?_
    have listed : e.1 ∈ order ↔ e.1 ∈ entries.map Prod.fst := by
      rw [same, List.mem_eraseDups]
    rw [List.mem_filter, List.contains_iff_mem, listed]
    constructor
    · exact fun member => ⟨there e member, List.mem_map_of_mem member⟩
    · rintro ⟨member, known⟩
      obtain ⟨e', member', sameName⟩ := List.mem_map.mp known
      rwa [← List.inj_on_of_nodup_map ascending.distinct (there e' member') member sameName]
  exact (named.append_right _).trans (List.filter_append_perm _ _)

theorem named_before (ascending : r.Ascending) (same : entries.map Prod.fst = order.eraseDups) :
    ((entries ++ r.entries.filter fun e => !order.contains e.1).map Prod.fst).Pairwise
      (Before order) := by
  have unnamed : ∀ name ∈ (r.entries.filter fun e => !order.contains e.1).map Prod.fst,
      name ∉ order := by
    simp
  have others : ((r.entries.filter fun e => !order.contains e.1).map Prod.fst).Pairwise (· < ·) :=
    ascending.sublist (List.filter_sublist.map Prod.fst)
  rw [List.map_append, same, List.pairwise_append]
  refine ⟨?_, ?_, ?_⟩
  · refine (eraseDups_appear order).imp_of_mem fun first second earlier => ?_
    exact .appears (List.mem_eraseDups.mp first) (List.mem_eraseDups.mp second) earlier
  · exact others.imp_of_mem fun first second less => .byName (unnamed _ first) (unnamed _ second) less
  · exact fun a first b second => .named (List.mem_eraseDups.mp first) (unnamed b second)

theorem ordered_known (ascending : r.Ascending) (known : ∀ name ∈ order, name ∈ r.names) :
    Orders r order (r.ordered order) := by
  obtain ⟨named, same, there⟩ : ∃ entries : List (String × Producer),
      entries.map Prod.fst = order.eraseDups ∧ ∀ e ∈ entries, e ∈ r.entries :=
    exists_entries fun name member => known name (List.mem_eraseDups.mp member)
  have perm := named_perm ascending same there
  have result : r.ordered order =
      .ok ((named ++ r.entries.filter fun e => !order.contains e.1).map Prod.snd) := by
    rw [ordered, ← same, mapM_get ascending there, List.map_append]
    rfl
  rw [result]
  exact .arranged _ known perm (named_before ascending same) (ordered_names ascending perm)

theorem ordered_unknown (ascending : r.Ascending) {before after : List String}
    (known : ∀ name ∈ before, name ∈ r.names) (unknown : name ∉ r.names) :
    r.ordered (before ++ name :: after) =
      .error (.configuration (.unknownProducer name r.names)) := by
  have fresh : name ∉ before := fun member => unknown (known name member)
  obtain ⟨named, same, there⟩ : ∃ entries : List (String × Producer),
      entries.map Prod.fst = before.eraseDups ∧ ∀ e ∈ entries, e ∈ r.entries :=
    exists_entries fun name member => known name (List.mem_eraseDups.mp member)
  have first : (before ++ name :: after).eraseDups = before.eraseDups ++
      name :: ((after.removeAll before).filter fun d => !d == name).eraseDups := by
    have kept : before.contains name = false := by simpa using fresh
    rw [List.eraseDups_append, List.cons_removeAll, if_pos kept, List.eraseDups_cons]
  rw [ordered, first, List.mapM_append, ← same, mapM_get ascending there, List.mapM_cons,
    get_unknown unknown]
  rfl

theorem ordered_orders (ascending : r.Ascending) (order : List String) :
    Orders r order (r.ordered order) := by
  cases found : order.find? fun name => !r.names.contains name with
  | none => exact ordered_known ascending (by simpa using found)
  | some name =>
    obtain ⟨missing, before, after, rfl, others⟩ := List.find?_eq_some_iff_append.mp found
    have unknown : name ∉ r.names := by simpa using missing
    have known : ∀ name ∈ before, name ∈ r.names := by simpa using others
    rw [ordered_unknown ascending known unknown]
    exact .unknown before name after rfl known unknown

/-- Among findings of distinct names just the producers that packages expose are discovered, by
ascending names and whichever is found first. Any order of names arranges all of them, or its first
unknown name is reported. -/
theorem discovers_and_orders (distinct : (findings.map Prod.fst).Nodup) :
    (∀ name, name ∈ (discover findings).1.names ↔
      ∃ p, (name, .package (.producer p)) ∈ findings) ∧
    (∀ name p, (name, p) ∈ (discover findings).1.entries ↔
      (name, .package (.producer p)) ∈ findings) ∧
    (discover findings).1.Ascending ∧
    (∀ permuted, findings.Perm permuted → (discover permuted).1 = (discover findings).1) ∧
    ∀ order, Orders (discover findings).1 order ((discover findings).1.ordered order) := by
  have ascending := discover_ascending distinct
  refine ⟨fun name => ?_, fun name p => mem_discover distinct, ascending,
    fun permuted => discover_perm distinct, ordered_orders ascending⟩
  rw [mem_names]
  exact exists_congr fun p => mem_discover distinct

def disorderly : List (String × Finding) := [
  ("sdm", .package (.producer .sdm)),
  ("broken", .broken),
  ("other", .package .somethingElse),
  ("dzg", .package (.producer .dzg)),
  ("bare", .package .nothing),
  ("tools", .plainModule)]

theorem orders_disorderly : (disorderly.map Prod.fst).Nodup ∧
    "dzg" ∈ (discover disorderly).1.names ∧ "other" ∉ (discover disorderly).1.names ∧
    (discover disorderly).1.Ascending ∧
    (discover disorderly.reverse).1 = (discover disorderly).1 ∧
    ∀ order ∈ [["sdm", "sdm"], ["sdm", "abb"]],
      Orders (discover disorderly).1 order ((discover disorderly).1.ordered order) := by
  have distinct : (disorderly.map Prod.fst).Nodup := by decide
  obtain ⟨names, _, ascending, perm, orders⟩ := discovers_and_orders distinct
  refine ⟨distinct, (names "dzg").mpr ⟨.dzg, by simp [disorderly]⟩, ?_, ascending,
    perm _ disorderly.reverse_perm.symm, fun order _ => orders order⟩
  rw [names]
  simp [disorderly]

end Registry

end MeterPolling
