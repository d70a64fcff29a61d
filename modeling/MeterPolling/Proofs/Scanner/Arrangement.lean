import MeterPolling.Proofs.Producer
import MeterPolling.Proofs.Scanner.Failure
/-!
Scans with more producers, or with the same ones in another order. On a bus that has no memory of the
reads before, what is found at an address is the first producer whose read is answered, whatever was
done elsewhere; so the report of a scan is known without the scan. More producers at the end only add
to it, and the order matters just where several producers are answered.
-/
namespace MeterPolling

/-- The reply to a read depends on that read only. -/
def Bus.Memoryless (bus : Bus) : Prop :=
  ∀ earlier call, bus.reply earlier call = bus.reply [] call

/-- The read by which a producer detects a meter is answered with registers. -/
def Producer.isAnswered (bus : Bus) (device : Int) (p : Producer) : Bool :=
  (p.read? device).any fun call => (bus.outcome [] call).isOk

namespace Bus

/-- What is to be found at an address: the first of the producers whose read is answered. -/
def finding (bus : Bus) (producers : List Producer) (device : Int) : Option Producer :=
  producers.find? (Producer.isAnswered bus device)

def report (bus : Bus) (producers : List Producer) : ScanReport where
  devices := Device.all.filterMap fun x => (bus.finding producers x).map fun p => (x, p.meterType)
  absent := Device.all.filter fun x => (bus.finding producers x).isNone

variable {bus : Bus} {earlier : List Call} {call : Call} {producers more permuted : List Producer}
  {x : Int} {type : String} {p : Producer} {waits : Option Number}

theorem Memoryless.outcome (free : bus.Memoryless) (earlier : List Call) (call : Call) :
    bus.outcome earlier call = bus.outcome [] call := by
  simp only [Bus.outcome, free earlier]

theorem Memoryless.fate (free : bus.Memoryless) (r : Request) (earlier : List Call) :
    r.fate bus waits earlier = r.fate bus waits [] := by
  have exchange (timeout : Number) :
      bus.exchange timeout earlier r.call = bus.exchange timeout [] r.call := by
    rw [Bus.exchange, Bus.exchange, free earlier]
  unfold Request.fate
  split
  · rfl
  · rfl
  · rw [exchange, free.outcome earlier]

theorem Memoryless.trial (free : bus.Memoryless) (earlier : List Call) (p : Producer) :
    p.trial bus waits earlier x = p.trial bus waits [] x := by
  cases probed : p.probe x with
  | error f => rw [Producer.trial_unprobed probed, Producer.trial_unprobed probed]
  | ok r => rw [Producer.trial_probed probed, Producer.trial_probed probed, free.fate r earlier]

/-! ## The report without a scan -/

theorem mem_devices : (x, type) ∈ (bus.report producers).devices ↔
    Device.isValid x = true ∧ ∃ p, bus.finding producers x = some p ∧ p.meterType = type := by
  simp only [report, List.mem_filterMap, Option.map_eq_some_iff, Prod.mk.injEq, Device.mem_all]
  constructor
  · rintro ⟨_, valid, p, found, rfl, same⟩
    exact ⟨valid, p, found, same⟩
  · rintro ⟨valid, p, found, same⟩
    exact ⟨x, valid, p, found, rfl, same⟩

theorem mem_absent : x ∈ (bus.report producers).absent ↔
    Device.isValid x = true ∧ bus.finding producers x = none := by
  simp only [report, List.mem_filter, Option.isNone_iff_eq_none, Device.mem_all]

theorem report_ascending (bus : Bus) (producers : List Producer) :
    ((bus.report producers).devices.map Prod.fst).Pairwise (· < ·) := by
  have ascending : Device.all.Pairwise (· < ·) := Device.addresses_ascending 247
  rw [List.pairwise_map]
  dsimp only [report]
  apply ascending.filterMap
  intro x y less e found e' found'
  obtain ⟨_, _, rfl⟩ := Option.map_eq_some_iff.mp found
  obtain ⟨_, _, rfl⟩ := Option.map_eq_some_iff.mp found'
  exact less

end Bus

/-- A report has all that is found in another one as it is there, and beyond that only devices at
addresses where nothing was found. -/
structure ScanReport.Extends (extended report : ScanReport) : Prop where
  kept : ∀ entry ∈ report.devices, entry ∈ extended.devices
  types : ∀ x type, (x, type) ∈ report.devices → extended.meterType x = type
  moved : extended.absent.Sublist report.absent
  fresh : ∀ entry ∈ extended.devices, entry ∈ report.devices ∨ entry.1 ∈ report.absent

namespace Bus

variable {bus : Bus} {producers more permuted : List Producer} {x : Int} {p : Producer}

/-- A producer that is found remains so with others behind it. -/
theorem finding_append : bus.finding (producers ++ more) x =
    (bus.finding producers x).or (bus.finding more x) :=
  List.find?_append

theorem report_append (bus : Bus) (producers more : List Producer) :
    (bus.report (producers ++ more)).Extends (bus.report producers) := by
  have kept : ∀ entry ∈ (bus.report producers).devices,
      entry ∈ (bus.report (producers ++ more)).devices := by
    rintro ⟨x, type⟩ member
    obtain ⟨valid, p, found, same⟩ := mem_devices.mp member
    refine mem_devices.mpr ⟨valid, p, ?_, same⟩
    rw [finding_append, found, Option.some_or]
  constructor
  case kept => exact kept
  case types =>
    intro x type member
    have once := (bus.report_ascending (producers ++ more)).imp Int.ne_of_lt
    exact ScanReport.meterType_found once (kept _ member)
  case moved =>
    dsimp only [report]
    apply List.monotone_filter_right
    intro x none
    rw [finding_append, Option.isNone_or, Bool.and_eq_true] at none
    exact none.1
  case fresh =>
    rintro ⟨x, type⟩ member
    obtain ⟨valid, p, found, same⟩ := mem_devices.mp member
    cases before : bus.finding producers x with
    | none => exact .inr (mem_absent.mpr ⟨valid, before⟩)
    | some q =>
      rw [finding_append, before, Option.some_or] at found
      cases found
      exact .inl (mem_devices.mpr ⟨valid, p, before, same⟩)

/-- Of the producers, at most one is answered at an address. -/
def Unambiguous (bus : Bus) (producers : List Producer) (x : Int) : Prop :=
  ∀ p ∈ producers, ∀ q ∈ producers, p.isAnswered bus x = true → q.isAnswered bus x = true → p = q

/-- Where at most one producer is answered, it is found in whatever order they are tried. -/
theorem Unambiguous.finding (only : bus.Unambiguous producers x)
    (order : producers.Perm permuted) : bus.finding permuted x = bus.finding producers x := by
  unfold Bus.finding
  cases found : producers.find? (Producer.isAnswered bus x) with
  | none =>
    rw [List.find?_eq_none] at found ⊢
    exact fun p member => found p (order.mem_iff.mpr member)
  | some p =>
    have answered := List.find?_some found
    have member := List.mem_of_find?_eq_some found
    cases found' : permuted.find? (Producer.isAnswered bus x) with
    | none => exact absurd answered (List.find?_eq_none.mp found' p (order.mem_iff.mp member))
    | some q =>
      have member' := order.mem_iff.mpr (List.mem_of_find?_eq_some found')
      rw [only p member q member' answered (List.find?_some found')]

theorem report_perm (only : ∀ x, Device.isValid x = true → bus.Unambiguous producers x)
    (order : producers.Perm permuted) : bus.report permuted = bus.report producers := by
  have same : ∀ x ∈ Device.all, bus.finding permuted x = bus.finding producers x := by
    intro x member
    exact (only x ((Device.mem_all x).mp member)).finding order
  unfold report
  congr 1
  · exact List.filterMap_congr fun x member => by rw [same x member]
  · exact List.filter_congr fun x member => by rw [same x member]

end Bus

/-! ## What scans report -/

variable {bus : Bus} {earlier calls : List Call} {device : Int} {producers : List Producer}
  {v : Visit}

theorem Vain.unanswered (free : bus.Memoryless)
    (vain : Vain bus earlier device producers calls) :
    ∀ p ∈ producers, ¬ p.isAnswered bus device = true := by
  induction vain with
  | none => exact nofun
  | more vain read fault ih =>
    rename_i call
    refine List.forall_mem_append.mpr ⟨ih, List.forall_mem_singleton.mpr fun answered => ?_⟩
    rw [free.outcome] at fault
    obtain ⟨why, failed⟩ := isFault_iff.mp fault
    rw [Producer.isAnswered, read, Option.any_some, failed] at answered
    cases answered

/-- A visit finds what is to be found at its address. -/
theorem Visit.Right.finds (free : bus.Memoryless) (right : v.Right bus earlier producers) :
    v.finding = bus.finding producers v.device := by
  unfold Right at right
  unfold Bus.finding
  split at right
  · rename_i none
    rw [none, eq_comm, List.find?_eq_none]
    exact right.unanswered free
  · rename_i p found
    obtain ⟨before, after, calls, call, bytes, rfl, vain, read, outcome, _⟩ := right
    have unanswered := List.find?_eq_none.mpr (vain.unanswered free)
    have answered : p.isAnswered bus v.device = true := by
      rw [free.outcome] at outcome
      rw [Producer.isAnswered, read, Option.any_some, outcome]
      rfl
    rw [found, List.find?_append, unanswered, Option.none_or, List.find?_cons_of_pos answered]

namespace Scanner

variable {link₀ link : Link} {s₀ s : Scanner} {report : ScanReport} {visits : List Visit}
  {timeout delay : Number}

/-- Once all addresses are visited, the report is the one that the bus alone gives. -/
theorem Visited.report_eq (visited : Visited producers link₀ report link visits [])
    (all : visits.length = 247) (free : link₀.bus.Memoryless) :
    report = link₀.bus.report producers := by
  have addresses : visits.map (·.device) = Device.all := by
    rw [visited.swept.addresses, all]
    rfl
  have finds : ∀ v ∈ visits, v.finding = link₀.bus.finding producers v.device := by
    intro v member
    obtain ⟨before, after, split⟩ := List.append_of_mem member
    exact (visited.swept.right before v after split).finds free
  rw [visited.report, Visit.report, Bus.report, ← addresses]
  congr 1
  · rw [List.filterMap_map]
    refine List.filterMap_congr fun v member => ?_
    rw [Visit.entry?, finds v member]
    rfl
  · rw [List.filter_map, Visit.absences]
    congr 1
    refine List.filter_congr fun v member => ?_
    rw [finds v member]
    rfl

/-- A scan that is left to itself runs to its end. -/
theorem Ends.run (ends : Ends s link) (run : Run s₀ link₀ s link)
    (uncancelled : s.stage ≠ .cancelled) :
    ∃ s' link', Run s₀ link₀ s' link' ∧ s'.hasEnded = true ∧ s'.stage ≠ .cancelled := by
  induction ends with
  | ended ended => exact ⟨_, _, run, ended, uncancelled⟩
  | step _ ih => exact ih run.step (step_uncancelled uncancelled)

/-- All that there is to a scan but for its producers. The pauses are not too long. -/
structure Occasion where
  link : Link
  timeout : Number
  delay : Number
  paced : (Pause.ofDelay? delay).isSome

namespace Occasion

/-- The probes with these producers fail with nothing but faults of the transport. -/
def Quiet (o : Occasion) (producers : List Producer) : Prop :=
  ∀ p ∈ producers, ∀ x, Device.isValid x = true →
    raised? (p.trial o.link.bus (o.link.session.client.map fun _ => o.timeout) [] x).result = none

/-- A scan that was not cancelled has come to its end. -/
structure Finished (o : Occasion) (producers : List Producer) (s : Scanner) (link : Link) : Prop where
  run : Run (make producers o.timeout o.delay) o.link s link
  ended : s.hasEnded = true
  uncancelled : s.stage ≠ .cancelled

structure Reports (o : Occasion) (producers : List Producer) (report : ScanReport) : Prop where
  ends : ∃ s link, o.Finished producers s link
  completes : ∀ s link, o.Finished producers s link → s.stage = .done ∧ s.report = report

variable {o o' : Occasion} {more permuted : List Producer}

theorem Quiet.subset (quiet : o.Quiet producers) (part : ∀ p ∈ permuted, p ∈ producers) :
    o.Quiet permuted :=
  fun p member => quiet p (part p member)

/-- With such producers a scan does not fail. -/
theorem Finished.done (finished : o.Finished producers s link) (free : o.link.bus.Memoryless)
    (quiet : o.Quiet producers) : s.stage = .done := by
  have course := finished.run.onCourse
  cases stage : s.stage with
  | done => rfl
  | failed f =>
    obtain ⟨t, member, raised⟩ :=
      ((course.ended o.paced finished.ended finished.uncancelled).2 f).mp stage
    obtain ⟨p, among, x, valid, before, rfl⟩ := Trial.mem_sweep member
    have silent := quiet p among x ((Device.mem_all x).mp valid)
    rw [← free.trial before p] at silent
    exact absurd (raised.symm.trans silent) nofun
  | cancelled => exact absurd stage finished.uncancelled
  | _ =>
    have ended := finished.ended
    rw [hasEnded, stage] at ended
    cases ended

/-- A scan with such producers reports what the bus has for them. -/
theorem Quiet.reports (quiet : o.Quiet producers) (free : o.link.bus.Memoryless) :
    o.Reports producers (o.link.bus.report producers) where
  ends := by
    obtain ⟨s, link, run, ended, uncancelled⟩ :=
      (Scanner.ends (make producers o.timeout o.delay) o.link).run .start nofun
    exact ⟨s, link, run, ended, uncancelled⟩
  completes := by
    intro s link finished
    have done := finished.done free quiet
    obtain ⟨_, stands⟩ := finished.run.stands
    unfold Stands at stands
    rw [done] at stands
    obtain ⟨visits, all, visited⟩ := stands
    exact ⟨done, visited.report_eq all free⟩

/-- On a bus without memory, a scan reports at each address the first of its producers that is
answered. With more producers it reports the same, with the same types, and beyond that only finds
devices where there were none. If at no address more than one producer is answered, scans with the
producers in any order report the same. -/
theorem report_extends_and_permutes (free : o.link.bus.Memoryless)
    (same : o'.link.bus = o.link.bus) (quiet : o.Quiet (producers ++ more))
    (quiet' : o'.Quiet (producers ++ more)) :
    o.Reports producers (o.link.bus.report producers) ∧
      (∃ extended, o'.Reports (producers ++ more) extended ∧
        extended.Extends (o.link.bus.report producers)) ∧
      ((∀ x, Device.isValid x = true → o.link.bus.Unambiguous producers x) →
        ∀ permuted, producers.Perm permuted →
          o'.Reports permuted (o.link.bus.report producers)) := by
  have free' : o'.link.bus.Memoryless := by rwa [same]
  have first : o.Quiet producers := quiet.subset fun p => List.mem_append_left more
  refine ⟨first.reports free, ?_, ?_⟩
  · have reports := quiet'.reports free'
    rw [same] at reports
    exact ⟨_, reports, Bus.report_append _ producers more⟩
  · intro only permuted order
    have part : ∀ p ∈ permuted, p ∈ producers ++ more := fun p member =>
      List.mem_append_left more (order.mem_iff.mpr member)
    have reports := (quiet'.subset part).reports free'
    rwa [same, Bus.report_perm only order] at reports

def sparse (timeout : Number) : Occasion := ⟨sparseLink, timeout, 0, by decide +kernel⟩

def either : List Producer := [plain "holding" 3, plain "input" 4]

theorem quiet_of_all (silent : ∀ p ∈ producers, ∀ x ∈ Device.all,
    raised? (p.trial o.link.bus (o.link.session.client.map fun _ => o.timeout) [] x).result = none) :
    o.Quiet producers :=
  fun p among x valid => silent p among x ((Device.mem_all x).mpr valid)

theorem sparse_extended_and_reversed :
    sparseBus.Memoryless ∧ (sparse 0).Quiet either ∧ (sparse 1).Quiet either ∧
      (∀ x, Device.isValid x = true → sparseBus.Unambiguous either x) ∧
      either.Perm either.reverse ∧
      (sparseBus.report (either.take 1)).devices = [(3, "holding")] ∧
      (sparse 0).Reports (either.take 1) (sparseBus.report (either.take 1)) ∧
      (∃ extended, (sparse 1).Reports either extended ∧
        extended.Extends (sparseBus.report (either.take 1))) ∧
      (sparseBus.report either).devices = [(3, "holding"), (5, "input")] ∧
      (sparse 0).Reports either.reverse (sparseBus.report either) := by
  have free : sparseBus.Memoryless := fun _ _ => rfl
  have quiet : (sparse 0).Quiet either := quiet_of_all (by decide +kernel)
  have quiet' : (sparse 1).Quiet either := quiet_of_all (by decide +kernel)
  have only : ∀ x, Device.isValid x = true → sparseBus.Unambiguous either x := by
    have only : ∀ x ∈ Device.all, sparseBus.Unambiguous either x := by
      unfold Bus.Unambiguous
      decide +kernel
    exact fun x valid => only x ((Device.mem_all x).mpr valid)
  have order : either.Perm either.reverse := (List.reverse_perm either).symm
  have parts : (sparse 0).Quiet (either.take 1 ++ either.drop 1) := quiet
  have parts' : (sparse 1).Quiet (either.take 1 ++ either.drop 1) := quiet'
  have all : (sparse 0).Quiet (either ++ []) := quiet
  have all' : (sparse 1).Quiet (either ++ []) := quiet'
  have same : (sparse 1).link.bus = (sparse 0).link.bus := rfl
  obtain ⟨reports, extends', _⟩ := report_extends_and_permutes free same parts parts'
  obtain ⟨_, _, permuted⟩ := report_extends_and_permutes free same.symm all' all
  have devices : (sparseBus.report (either.take 1)).devices = [(3, "holding")] := by
    decide +kernel
  have devices' : (sparseBus.report either).devices = [(3, "holding"), (5, "input")] := by
    decide +kernel
  exact ⟨free, quiet, quiet', only, order, devices, reports, extends', devices',
    permuted only _ order⟩

end Occasion

end Scanner

end MeterPolling
