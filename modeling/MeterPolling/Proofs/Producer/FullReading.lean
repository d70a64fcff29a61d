import Mathlib.Data.List.Count
import Mathlib.Data.List.Induction
import MeterPolling.Proofs.Registry
import MeterPolling.Proofs.Sorting
/-!
The full reading of a meter. A table of registers is built from entries, of which a later one replaces
an earlier one of its label, and the requests are sorted by the addresses that the labels have in the
end. Each label has just one request, and labels at one address keep the order in which they were
first given.
-/
namespace MeterPolling

variable {entries : List (String × Register)} {label : String} {register : Register}

/-! ## Tables built from entries -/

namespace RegisterTable

/-- The register that the last entry of a label gives it. -/
def Last (entries : List (String × Register)) (label : String) (register : Register) : Prop :=
  ∃ before after, entries = before ++ (label, register) :: after ∧ ∀ e ∈ after, e.1 ≠ label

theorem insert_eq (table : RegisterTable) (label : String) (register : Register) :
    table.insert label register = Setting.putEntry label register table := by
  induction table with
  | nil => rfl
  | cons entry rest ih =>
    obtain ⟨l, r⟩ := entry
    by_cases same : l = label
    · simp [insert, Setting.putEntry, same]
    · simp [insert, Setting.putEntry, same, ih]

theorem ofList_concat (entries : List (String × Register)) (label : String) (register : Register) :
    ofList (entries ++ [(label, register)]) =
      Setting.putEntry label register (ofList entries) := by
  rw [← insert_eq, ofList, List.foldl_concat]
  rfl

/-- A label keeps its first place. -/
theorem ofList_labels (entries : List (String × Register)) :
    (ofList entries).map Prod.fst = (entries.map Prod.fst).eraseDups := by
  induction entries using List.reverseRecOn with
  | nil => rfl
  | append_singleton entries e ih =>
    rw [ofList_concat, Setting.keys_putEntry, List.map_append, List.map_singleton,
      List.eraseDups_append, ih, List.cons_removeAll]
    by_cases known : e.1 ∈ entries.map Prod.fst
    · simp [known]
    · simp [known, List.eraseDups_cons]

theorem ofList_nodup (entries : List (String × Register)) :
    ((ofList entries).map Prod.fst).Nodup := by
  rw [ofList_labels]
  exact eraseDups_nodup _

/-- A label takes its last value. -/
theorem ofList_lookup (entries : List (String × Register)) (label : String) :
    (ofList entries).lookup label = entries.reverse.lookup label := by
  induction entries using List.reverseRecOn with
  | nil => rfl
  | append_singleton entries e ih =>
    rw [ofList_concat, Setting.lookup_putEntry, List.reverse_concat, Setting.lookup_entry, ih]

theorem lookup_last (found : (ofList entries).lookup label = some register) :
    Last entries label register := by
  rw [ofList_lookup, List.lookup_eq_some_iff] at found
  obtain ⟨after, before, split, others⟩ := found
  refine ⟨before.reverse, after.reverse, ?_, ?_⟩
  · rw [← List.reverse_reverse entries, split]
    simp
  · intro e member same
    have other := others e (List.mem_reverse.mp member)
    simp [same] at other

end RegisterTable

/-! ## The order of the requests -/

/-- One request stands before another: its address is lower, or it is the same and its label was given
first. -/
inductive Request.Precedes (labels : List String) (r s : Request) : Prop where
  | lower : r.address < s.address → Precedes labels r s
  | earlier (a b : String) : r.address = s.address → r.label = some a → s.label = some b →
      labels.idxOf a < labels.idxOf b → Precedes labels r s

/-- What a full reading asks of a device, by the entries that the table of registers is built from. A
request has neither a value nor a time: those come with its reading. -/
structure Producer.ReadsInFull (p : Producer) (entries : List (String × Register)) (device : Int)
    (requests : List Request) : Prop where
  /-- Each label has one request. -/
  once : ∀ label, (requests.map Request.label).count (some label) =
    if label ∈ entries.map Prod.fst then 1 else 0
  /-- It is the one for that label, and asks for the register that the label has in the end. -/
  each : ∀ r ∈ requests, ∃ label register, RegisterTable.Last entries label register ∧
    r = ⟨device, p.function, register.address, register.decoder.registerCount, register.decoder,
      some label⟩ ∧
    p.request device label = .ok r
  ordered : requests.Pairwise (Request.Precedes (entries.map Prod.fst))

namespace RegisterTable

def byAddress (table : RegisterTable) : RegisterTable :=
  table.mergeSort fun a b => a.2.address ≤ b.2.address

variable {table : RegisterTable} {e f : String × Register}

theorem byAddress_perm (table : RegisterTable) : table.byAddress.Perm table :=
  List.mergeSort_perm _ _

theorem byAddress_ascending (table : RegisterTable) :
    table.byAddress.Pairwise fun a b => a.2.address ≤ b.2.address :=
  mergeSort_ascending (fun e => e.2.address) table

/-- What stands at one address keeps its order. -/
theorem byAddress_filter (table : RegisterTable) (address : Int) :
    (table.byAddress.filter fun e => e.2.address == address) =
      table.filter fun e => e.2.address == address :=
  mergeSort_level (fun e => e.2.address) table address

theorem byAddress_stable (sorted : [e, f].Sublist table.byAddress) :
    e.2.address < f.2.address ∨ e.2.address = f.2.address ∧ [e, f].Sublist table := by
  have order := List.pairwise_iff_forall_sublist.mp table.byAddress_ascending sorted
  rcases Int.lt_or_eq_of_le order with lower | same
  · exact .inl lower
  · refine .inr ⟨same, ?_⟩
    have level := sorted.filter fun g => g.2.address == e.2.address
    rw [byAddress_filter] at level
    have both : ([e, f].filter fun g => g.2.address == e.2.address) = [e, f] := by simp [same]
    rw [both] at level
    exact level.trans List.filter_sublist

end RegisterTable

namespace Producer

variable {p : Producer} {device : Int}

theorem requests_eq (p : Producer) (device : Int) :
    p.requests device = p.registers.byAddress.map fun e => p.requestFor device e.1 e.2 := rfl

theorem requests_labels (p : Producer) (device : Int) :
    ((p.requests device).map Request.label).Perm ((p.registers.map Prod.fst).map some) := by
  rw [requests_eq, List.map_map, List.map_map]
  exact (RegisterTable.byAddress_perm p.registers).map _

theorem request_lookup (found : p.registers.lookup label = some register) :
    p.request device label = .ok (p.requestFor device label register) := by
  simp only [request, found]

theorem requests_ordered (built : p.registers = .ofList entries) :
    (p.requests device).Pairwise (Request.Precedes (entries.map Prod.fst)) := by
  rw [requests_eq, List.pairwise_map, List.pairwise_iff_forall_sublist]
  intro e f sorted
  rcases RegisterTable.byAddress_stable sorted with lower | ⟨same, inTable⟩
  · exact .lower lower
  · -- the labels stand in the table as they were first given
    have places := eraseDups_appear (entries.map Prod.fst)
    rw [← RegisterTable.ofList_labels, ← built, List.pairwise_map] at places
    exact .earlier e.1 f.1 same rfl rfl (List.pairwise_iff_forall_sublist.mp places inTable)

/-- Whatever entries its table is built from, a producer asks for each label once, by ascending
address. -/
theorem reads_every_register_once (built : p.registers = .ofList entries) (device : Int) :
    p.ReadsInFull entries device (p.requests device) := by
  have distinct : (p.registers.map Prod.fst).Nodup := built ▸ RegisterTable.ofList_nodup entries
  constructor
  case once =>
    intro label
    have known : label ∈ p.registers.map Prod.fst ↔ label ∈ entries.map Prod.fst := by
      rw [built, RegisterTable.ofList_labels, List.mem_eraseDups]
    rw [(requests_labels p device).count_eq,
      List.count_map_of_injective _ some (fun _ _ => Option.some.inj), distinct.count]
    simp only [known]
  case each =>
    intro r member
    rw [requests_eq] at member
    obtain ⟨⟨label, register⟩, sorted, rfl⟩ := List.mem_map.mp member
    have there := (RegisterTable.byAddress_perm p.registers).mem_iff.mp sorted
    have found := (Setting.lookup_eq_some_iff distinct).mpr there
    refine ⟨label, register, ?_, rfl, request_lookup found⟩
    rw [built] at found
    exact RegisterTable.lookup_last found
  case ordered => exact requests_ordered built

/-- A label is given twice, at last with the address at which two others stand. -/
def restless : List (String × Register) := [
  ("Freq", ⟨7, .scaled16 50⟩),
  ("VolLocPhsA", ⟨2, .raw32⟩),
  ("AmpLocPhsA", ⟨2, .scaled32 500⟩),
  ("WLocPhsA", ⟨0, .raw32⟩),
  ("Freq", ⟨2, .scaled16 20⟩)]

theorem reads_restless :
    let p : Producer := ⟨"Toy", "toy", 4, "Freq", .ofList restless⟩
    p.registers = .ofList restless ∧ p.ReadsInFull restless 3 (p.requests 3) ∧
      (p.requests 3).map (fun r => (r.label, r.address)) =
        [(some "WLocPhsA", 0), (some "Freq", 2), (some "VolLocPhsA", 2), (some "AmpLocPhsA", 2)] := by
  intro p
  refine ⟨rfl, reads_every_register_once rfl 3, ?_⟩
  simp [p, requests, requestFor, RegisterTable.ofList, RegisterTable.insert, restless, List.mergeSort,
    List.MergeSort.Internal.splitInTwo]

end Producer

end MeterPolling
