import Mathlib.Data.List.Nodup
import MeterPolling.Proofs.Agent.Course
import MeterPolling.Scanner
/-!
What a scan is to find, when nothing but the bus decides. An address is visited with one producer
after the other, until a read gives registers; what is found at each address makes up the report. No
time occurs in it and nothing of the scanner.
-/
namespace MeterPolling

/-- The read by which a producer detects a meter, unless it lacks the register for it. -/
def Producer.read? (p : Producer) (device : Int) : Option Call :=
  (p.registers.lookup p.probeLabel).map fun register =>
    ⟨p.function, register.address, register.decoder.registerCount, device⟩

theorem Producer.probe_read {p : Producer} {device : Int} {request : Request}
    (probe : p.probe device = .ok request) : p.read? device = some request.call := by
  unfold Producer.probe Producer.request at probe
  unfold read?
  split at probe
  · rename_i register found
    cases probe
    rw [found]
    rfl
  · cases probe

theorem Producer.read_device {p : Producer} {device : Int} {call : Call}
    (read : p.read? device = some call) : call.device = device := by
  obtain ⟨register, _, rfl⟩ := Option.map_eq_some_iff.mp read
  rfl

namespace ScanReport

variable {r : ScanReport} {x : Int} {type : String}

theorem meterType_found (once : (r.devices.map Prod.fst).Nodup) (member : (x, type) ∈ r.devices) :
    r.meterType x = type := by
  obtain ⟨before, after, split⟩ := List.append_of_mem member
  have found : r.devices.lookup x = some type := by
    refine List.lookup_eq_some_iff.mpr ⟨before, after, split, fun entry earlier => ?_⟩
    rw [split, List.map_append, List.nodup_append] at once
    have apart := once.2.2 entry.1 (List.mem_map_of_mem earlier) x (by simp)
    simpa using apart.symm
  rw [meterType, found, Option.getD_some]

theorem meterType_other (other : x ∉ r.devices.map Prod.fst) : r.meterType x = "n/a" := by
  have unknown : r.devices.lookup x = none := by
    rw [List.lookup_eq_none_iff]
    intro entry member
    have apart : x ≠ entry.1 := fun same => other (same ▸ List.mem_map_of_mem member)
    simpa using apart
  rw [meterType, unknown, Option.getD_none]

end ScanReport

namespace Device

def addresses (n : Nat) : List Int := (List.range n).map fun i : Nat => first + (i : Int)

def all : List Int := addresses 247

theorem addresses_succ (n : Nat) : addresses (n + 1) = addresses n ++ [first + n] := by
  simp [addresses, List.range_succ]

theorem addresses_ascending (n : Nat) : (addresses n).Pairwise (· < ·) := by
  unfold addresses
  rw [List.pairwise_map]
  exact List.pairwise_lt_range.imp fun less => by omega

theorem mem_all (x : Int) : x ∈ all ↔ isValid x = true := by
  unfold isValid
  rw [Bool.and_eq_true, decide_eq_true_iff, decide_eq_true_iff]
  simp only [all, addresses, List.mem_map, List.mem_range, first, last]
  constructor
  · rintro ⟨i, below, rfl⟩
    omega
  · rintro ⟨above, below⟩
    exact ⟨(x - 1).toNat, by omega, by omega⟩

end Device

structure Visit where
  device : Int
  calls : List Call
  finding : Option Producer

/-- Each of these producers in turn was tried at an address with its read, and each read ended in a
fault of the transport. -/
inductive Vain (bus : Bus) (earlier : List Call) (device : Int) :
    List Producer → List Call → Prop where
  | none : Vain bus earlier device [] []
  | more {producers : List Producer} {calls : List Call} {p : Producer} {call : Call} :
      Vain bus earlier device producers calls → p.read? device = some call →
      isFault (bus.outcome (calls.reverse ++ earlier) call) = true →
      Vain bus earlier device (producers ++ [p]) (calls ++ [call])

/-- What becomes of an address after earlier calls, the latest first: the producers are tried in
their order, and the first one whose read gives registers is the one that is found. -/
def Visit.Right (bus : Bus) (earlier : List Call) (producers : List Producer) (v : Visit) : Prop :=
  match v.finding with
  | none => Vain bus earlier v.device producers v.calls
  | some p => ∃ before after calls call bytes, producers = before ++ p :: after ∧
      Vain bus earlier v.device before calls ∧ p.read? v.device = some call ∧
      bus.outcome (calls.reverse ++ earlier) call = .ok bytes ∧ v.calls = calls ++ [call]

variable {bus : Bus} {earlier calls : List Call} {device : Int} {producers : List Producer}
  {visits : List Visit} {v : Visit}

theorem Vain.reads (vain : Vain bus earlier device producers calls) :
    calls.map some = producers.map (·.read? device) := by
  induction vain with
  | none => rfl
  | more _ read _ ih => rw [List.map_append, ih, List.map_append, List.map_singleton, ← read]; rfl

theorem Vain.devices (vain : Vain bus earlier device producers calls) :
    ∀ call ∈ calls, call.device = device := by
  intro call member
  have read : some call ∈ producers.map (·.read? device) := by
    rw [← vain.reads]
    exact List.mem_map_of_mem member
  obtain ⟨p, _, read⟩ := List.mem_map.mp read
  exact Producer.read_device read

namespace Visit

/-- The reads of a visit are those of the producers that were tried, in their order. -/
theorem Right.reads (right : v.Right bus earlier producers) :
    ∃ tried, tried <+: producers ∧ v.calls.map some = tried.map (·.read? v.device) := by
  unfold Right at right
  split at right
  · exact ⟨producers, List.prefix_refl _, right.reads⟩
  · rename_i p finding
    obtain ⟨before, after, calls, call, _, split, vain, read, _, made⟩ := right
    refine ⟨before ++ [p], ?_, ?_⟩
    · exact ⟨after, by rw [split, List.append_assoc]; rfl⟩
    · rw [made, List.map_append, vain.reads, List.map_append, List.map_singleton, ← read]
      rfl

theorem Right.devices (right : v.Right bus earlier producers) :
    ∀ call ∈ v.calls, call.device = v.device := by
  obtain ⟨tried, _, reads⟩ := right.reads
  intro call member
  have read : some call ∈ tried.map (·.read? v.device) := by
    rw [← reads]
    exact List.mem_map_of_mem member
  obtain ⟨p, _, read⟩ := List.mem_map.mp read
  exact Producer.read_device read

/-- The entry of a visit in the report, where a meter was found. -/
def entry? (v : Visit) : Option (Int × String) := v.finding.map fun p => (v.device, p.meterType)

def absences (visits : List Visit) : List Int :=
  (visits.filter (·.finding.isNone)).map (·.device)

def report (visits : List Visit) : ScanReport := ⟨visits.filterMap entry?, absences visits⟩

theorem report_found (visits : List Visit) (device : Int) (calls : List Call) (p : Producer) :
    report (visits ++ [⟨device, calls, some p⟩]) =
      ⟨(report visits).devices ++ [(device, p.meterType)], (report visits).absent⟩ := by
  simp [report, absences, entry?]

theorem report_absent (visits : List Visit) (device : Int) (calls : List Call) :
    report (visits ++ [⟨device, calls, none⟩]) =
      ⟨(report visits).devices, (report visits).absent ++ [device]⟩ := by
  simp [report, absences, entry?]

theorem report_addresses (visits : List Visit) :
    (report visits).devices.map Prod.fst = (visits.filter (·.finding.isSome)).map (·.device) := by
  induction visits with
  | nil => rfl
  | cons v visits ih =>
    cases finding : v.finding with
    | none => simpa [report, entry?, finding] using ih
    | some p => simpa [report, entry?, finding] using ih

/-- The addresses in the report are among those visited, in the order of the visits. -/
theorem report_sublists (visits : List Visit) :
    ((report visits).devices.map Prod.fst).Sublist (visits.map (·.device)) ∧
      (report visits).absent.Sublist (visits.map (·.device)) := by
  rw [report_addresses]
  exact ⟨List.filter_sublist.map _, List.filter_sublist.map _⟩

/-- Each address that was visited is in one of the two lists. -/
theorem mem_report (visits : List Visit) (x : Int) :
    x ∈ visits.map (·.device) ↔
      x ∈ (report visits).devices.map Prod.fst ∨ x ∈ (report visits).absent := by
  obtain ⟨found, absent⟩ := report_sublists visits
  constructor
  · intro visited
    obtain ⟨v, member, rfl⟩ := List.mem_map.mp visited
    rw [report_addresses]
    cases finding : v.finding with
    | none => exact .inr (List.mem_map_of_mem (List.mem_filter.mpr ⟨member, by rw [finding]; rfl⟩))
    | some p => exact .inl (List.mem_map_of_mem (List.mem_filter.mpr ⟨member, by rw [finding]; rfl⟩))
  · rintro (member | member)
    · exact found.subset member
    · exact absent.subset member

/-- Where no address is visited twice, none is in both lists. -/
theorem report_disjoint (once : (visits.map (·.device)).Nodup) {x : Int}
    (found : x ∈ (report visits).devices.map Prod.fst) : x ∉ (report visits).absent := by
  intro absent
  rw [report_addresses] at found
  obtain ⟨v, member, rfl⟩ := List.mem_map.mp found
  obtain ⟨w, member', same⟩ := List.mem_map.mp absent
  obtain ⟨visited, some⟩ := List.mem_filter.mp member
  obtain ⟨visited', none⟩ := List.mem_filter.mp member'
  obtain rfl := List.inj_on_of_nodup_map once visited' visited same
  rw [Option.isNone_iff_eq_none] at none
  simp [none] at some

end Visit

/-- The first addresses were visited one after the other, each as the bus has it after the calls
before. -/
structure Swept (bus : Bus) (earlier : List Call) (producers : List Producer)
    (visits : List Visit) : Prop where
  addresses : visits.map (·.device) = Device.addresses visits.length
  right : ∀ before v after, visits = before ++ v :: after →
    v.Right bus ((before.flatMap Visit.calls).reverse ++ earlier) producers

theorem swept_nil (bus : Bus) (earlier : List Call) (producers : List Producer) :
    Swept bus earlier producers [] where
  addresses := rfl
  right before v after split := by simp at split

theorem Swept.snoc (swept : Swept bus earlier producers visits)
    (next : v.device = Device.first + visits.length)
    (right : v.Right bus ((visits.flatMap Visit.calls).reverse ++ earlier) producers) :
    Swept bus earlier producers (visits ++ [v]) where
  addresses := by
    rw [List.map_append, swept.addresses, List.length_append, List.length_singleton,
      Device.addresses_succ, List.map_singleton, next]
  right before w after split := by
    rcases List.eq_nil_or_concat after with rfl | ⟨after, last, rfl⟩
    · obtain ⟨rfl, same⟩ := List.append_inj' split rfl
      cases same
      exact right
    · rw [List.concat_eq_append, ← List.cons_append, ← List.append_assoc] at split
      exact swept.right before w after (List.append_inj' split rfl).1

end MeterPolling
