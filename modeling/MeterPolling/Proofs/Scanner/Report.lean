import MeterPolling.Proofs.Scanner.Run
/-!
What a scan that completes has done: it visited all valid addresses in ascending order, and its
report says what was found at each of them.
-/
namespace MeterPolling.Scanner

variable {producers : List Producer} {link₀ link : Link} {s : Scanner} {report : ScanReport}
  {visits : List Visit} {timeout delay : Number}

/-- A scan with these visits, over a link that was in the first state before and is in the second
one now. -/
structure Complete (producers : List Producer) (link₀ link : Link) (report : ScanReport)
    (visits : List Visit) : Prop where
  addresses : visits.map (·.device) = Device.all
  /-- Each visit ends with the first producer whose read gave registers, or in vain. -/
  right : ∀ before v after, visits = before ++ v :: after →
    v.Right link₀.bus ((before.flatMap Visit.calls).reverse ++ link₀.made) producers
  reads : ∀ v ∈ visits, ∃ tried, tried <+: producers ∧
    v.calls.map some = tried.map (·.read? v.device)
  calls : link.recorded Event.call? = link₀.recorded Event.call? ++ visits.flatMap Visit.calls
  ascending : (visits.flatMap Visit.calls).Pairwise (·.device ≤ ·.device)
  valid : ∀ call ∈ visits.flatMap Visit.calls, Device.isValid call.device = true
  found : report.devices = visits.filterMap Visit.entry? ∧
    (report.devices.map Prod.fst).Pairwise (· < ·)
  absent : report.absent = Visit.absences visits ∧ report.absent.Pairwise (· < ·)
  /-- Each valid address is in one of the two lists, and in one only. -/
  either : ∀ x, (Device.isValid x = true ↔
      x ∈ report.devices.map Prod.fst ∨ x ∈ report.absent) ∧
    ¬ (x ∈ report.devices.map Prod.fst ∧ x ∈ report.absent)
  types : ∀ x type, (x, type) ∈ report.devices → report.meterType x = type
  others : ∀ x, x ∉ report.devices.map Prod.fst → report.meterType x = "n/a"
  summary : ∃ header, report.summary = header ::
    (visits.filterMap Visit.entry?).map (fun d => s!"* slave address {d.1}: type {d.2}") ++
      [ScanReport.caveat]
  counters : link.counters = ⟨link₀.counters.requests + (visits.flatMap Visit.calls).length,
    link₀.counters.reconnects⟩

/-- Visits in ascending order make their calls in ascending order. -/
theorem calls_ascending (own : ∀ v ∈ visits, ∀ call ∈ v.calls, call.device = v.device)
    (order : (visits.map (·.device)).Pairwise (· < ·)) :
    (visits.flatMap Visit.calls).Pairwise (·.device ≤ ·.device) := by
  rw [List.pairwise_flatMap]
  constructor
  · intro v member
    rw [List.pairwise_iff_forall_sublist]
    intro a b part
    have first := own v member a (part.subset (by simp))
    have second := own v member b (part.subset (by simp))
    omega
  · rw [List.pairwise_map] at order
    refine order.imp_of_mem fun {v w} earlier later less a made b made' => ?_
    have first := own v earlier a made
    have second := own w later b made'
    omega

theorem Visited.complete (visited : Visited producers link₀ report link visits [])
    (all : visits.length = 247) : Complete producers link₀ link report visits := by
  obtain ⟨⟨addresses, right⟩, rfl, since⟩ := visited
  rw [all] at addresses
  rw [List.append_nil] at since
  have order : (visits.map (·.device)).Pairwise (· < ·) :=
    addresses ▸ Device.addresses_ascending 247
  have once : (visits.map (·.device)).Nodup := order.imp Int.ne_of_lt
  have each : ∀ v ∈ visits, ∃ earlier, v.Right link₀.bus earlier producers := by
    intro v member
    obtain ⟨before, after, split⟩ := List.append_of_mem member
    exact ⟨_, right before v after split⟩
  have own : ∀ v ∈ visits, ∀ call ∈ v.calls, call.device = v.device := by
    intro v member
    obtain ⟨_, right⟩ := each v member
    exact right.devices
  obtain ⟨found, absent⟩ := Visit.report_sublists visits
  constructor
  case addresses => exact addresses
  case right => exact right
  case reads =>
    intro v member
    obtain ⟨_, right⟩ := each v member
    exact right.reads
  case calls => exact since.recorded
  case ascending => exact calls_ascending own order
  case valid =>
    intro call member
    obtain ⟨v, visited, made⟩ := List.mem_flatMap.mp member
    rw [own v visited call made, ← Device.mem_all, Device.all, ← addresses]
    exact List.mem_map_of_mem visited
  case found => exact ⟨rfl, order.sublist found⟩
  case absent => exact ⟨rfl, order.sublist absent⟩
  case either =>
    intro x
    refine ⟨?_, fun both => Visit.report_disjoint once both.1 both.2⟩
    rw [← Device.mem_all, ← Visit.mem_report, addresses]
    rfl
  case types => exact fun x type => ScanReport.meterType_found (order.sublist found).nodup
  case others => exact fun x => ScanReport.meterType_other
  case summary => exact ⟨_, rfl⟩
  case counters => exact since.counters

/-- Whatever the producers, the bus and the time a scan takes: one that completes has made the reads
of its visits and no other, and reports what they found. -/
theorem Run.reports_what_was_found (run : Run (make producers timeout delay) link₀ s link)
    (done : s.stage = .done) : ∃ visits, Complete producers link₀ link s.report visits := by
  obtain ⟨_, stands⟩ := run.stands
  unfold Stands at stands
  rw [done] at stands
  obtain ⟨visits, all, visited⟩ := stands
  exact ⟨visits, visited.complete all⟩

def plain (type : String) (function : Int) : Producer :=
  ⟨"Plain", type, function, "VolLocPhsA", [("VolLocPhsA", ⟨0, .raw32⟩)]⟩

/-- Two meters on a line: one answers with holding registers, the other with input registers. -/
def sparseBus : Bus where
  opening := .connects true
  copiesTimeout := false
  reply _ call :=
    if call.device = 3 ∧ call.function = 3 ∨ call.device = 5 ∧ call.function = 4 then
      .answered none (.registers [0x4366, 0x8000])
    else .answered none (.exception 2)

def sparseLink : Link := (Link.make sparseBus (.make "/dev/ttyUSB0" .b9600n false) false).openPort.1

/-- The meter that answers the second producer only is found as well. -/
theorem sparse_reports :
    let producers := [plain "holding" 3, plain "input" 4]
    let scan := (make producers 0 0).run sparseLink
    Run (make producers 0 0) sparseLink scan.1 scan.2 ∧ scan.1.stage = .done ∧
      scan.1.report.devices = [(3, "holding"), (5, "input")] ∧
      ∃ visits, Complete producers sparseLink scan.2 scan.1.report visits := by
  intro producers scan
  have run := run_runs (make producers 0 0) sparseLink
  have result : scan.1.stage = .done ∧
      scan.1.report.devices = [(3, "holding"), (5, "input")] := by decide +kernel
  exact ⟨run, result.1, result.2, run.reports_what_was_found result.1⟩

end MeterPolling.Scanner
