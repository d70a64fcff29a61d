import MeterPolling.Proofs.Query
import MeterPolling.Proofs.Agent.Effect
import MeterPolling.Proofs.Loop
import MeterPolling.Proofs.Scanner.Visit
import MeterPolling.Scanner.Alone
/-!
Runs of a scanner, and where it stands in them. The clock may move between any two of its steps, and
it may be cancelled. At each stage the visits that are over, the address under way, the report and
the link fit together; nothing is assumed of the link, so that a scan without a client is covered.
-/
namespace MeterPolling

namespace Link

/-- The reads that the client has made, the latest first. -/
def made (link : Link) : List Call := (link.session.client.map (·.calls)).getD []

structure Since (before after : Link) (calls : List Call) : Prop where
  bus : after.bus = before.bus
  recorded : after.recorded Event.call? = before.recorded Event.call? ++ calls
  made : after.made = calls.reverse ++ before.made
  counters : after.counters =
    ⟨before.counters.requests + calls.length, before.counters.reconnects⟩

variable {link before middle after : Link} {calls more : List Call}

theorem Since.refl (link : Link) : link.Since link [] := by
  constructor <;> simp

theorem Since.trans (first : before.Since middle calls) (second : middle.Since after more) :
    before.Since after (calls ++ more) := by
  constructor
  case bus => rw [second.bus, first.bus]
  case recorded => rw [second.recorded, first.recorded, List.append_assoc]
  case made => rw [second.made, first.made, List.reverse_append, List.append_assoc]
  case counters => rw [second.counters, first.counters, List.length_append, Nat.add_assoc]

theorem Since.still (first : before.Since middle calls) (second : middle.Since after []) :
    before.Since after calls := by
  have both := first.trans second
  rwa [List.append_nil] at both

theorem record_since (link : Link) {event : Event} (uncalled : event.call? = none) :
    link.Since (link.record event) [] := by
  constructor
  case recorded => rw [recorded_none link uncalled, List.append_nil]
  all_goals rfl

theorem note_since (link : Link) (notice : Notice) : link.Since (link.note notice) [] :=
  link.record_since rfl

theorem setTimeout_since (link : Link) (timeout : Number) :
    link.Since (link.setTimeout timeout) [] := by
  constructor
  case recorded => exact (List.append_nil _).symm
  case made =>
    simp only [Link.made, setTimeout, Session.setTimeout, Option.map_map]
    rfl
  all_goals rfl

theorem setNow_since (link : Link) (now : Binary64) : link.Since { link with now := now } [] := by
  constructor
  case recorded => exact (List.append_nil _).symm
  all_goals rfl

/-- A query that is begun is one call, which ends as the bus has it after the calls before. -/
theorem beginQuery_since {next : Link} {r : Request} {exchange : Exchange}
    (begun : link.beginQuery r = (next, .ok exchange)) :
    link.Since next [r.call] ∧ exchange.settle = link.bus.outcome link.made r.call := by
  cases refusal : r.refusal? with
  | some f =>
    rw [beginQuery_refused refusal] at begun
    cases begun
  | none =>
    have known := (refusal_none refusal).2
    let counted : Link := { link with counters := link.counters.addRequest }
    rw [beginQuery_handed refusal] at begun
    cases present : link.session.client with
    | none => simp [beginRead, Session.begin, Request.call, known, present] at begun
    | some client =>
      have still : counted.session.client = some client := present
      rw [beginRead_known known still] at begun
      cases begun
      have made : link.made = client.calls := by simp [Link.made, present]
      refine ⟨⟨rfl, ?_, ?_, rfl⟩, ?_⟩
      · have found : (Event.called r.call client.effectiveTimeout).call? = some r.call := rfl
        exact recorded_some _ found
      · rw [made]
        rfl
      · rw [made]
        exact Bus.exchange_settle _ _ _ _

theorem settleQuery_since (link : Link) (exchange : Exchange) :
    link.Since (link.settleQuery exchange).1 [] := by
  unfold settleQuery
  split
  · simp only
    split
    · exact note_since _ _
    · exact .refl link
  · exact .refl link

end Link

namespace Probe

/-- What has become of an address with the calls made there so far, unless the probing failed. -/
def Stands (bus : Bus) (earlier : List Call) (producers : List Producer) (device : Int)
    (calls : List Call) : Probe → Prop
  | .trying rest => ∃ tried, producers = tried ++ rest ∧ Vain bus earlier device tried calls
  | .waiting p request exchange rest =>
    ∃ tried before, producers = tried ++ p :: rest ∧ Vain bus earlier device tried before ∧
      p.read? device = some request.call ∧ calls = before ++ [request.call] ∧
      exchange.settle = bus.outcome (before.reverse ++ earlier) request.call
  | .found p => Visit.Right bus earlier producers ⟨device, calls, some p⟩
  | .absent => Visit.Right bus earlier producers ⟨device, calls, none⟩
  | .failed _ => False

/-- A step of a probe fails, or it makes some calls and leaves the probe where these take it. -/
def Advances (bus : Bus) (earlier : List Call) (producers : List Producer) (device : Int)
    (calls : List Call) (link : Link) (result : Probe × Link) : Prop :=
  (∃ f, result.1 = .failed f) ∨
    ∃ more, link.Since result.2 more ∧
      result.1.Stands bus earlier producers device (calls ++ more)

variable {bus : Bus} {earlier calls : List Call} {producers rest : List Producer} {device : Int}
  {p : Producer} {request : Request} {exchange : Exchange} {probe : Probe} {link next : Link}

theorem Stands.advances (stands : probe.Stands bus earlier producers device calls)
    (since : link.Since next []) :
    Advances bus earlier producers device calls link (probe, next) :=
  .inr ⟨[], since, by rwa [List.append_nil]⟩

theorem settle_advances (link : Link)
    (stands : (waiting p request exchange rest).Stands bus earlier producers device calls) :
    Advances bus earlier producers device calls link
      (settle device p request exchange rest link) := by
  obtain ⟨tried, before, split, vain, read, rfl, outcome⟩ := stands
  have since := link.settleQuery_since exchange
  have reply := link.settleQuery_reply exchange
  unfold settle
  generalize link.settleQuery exchange = settled at since reply ⊢
  obtain ⟨next, result⟩ := settled
  rw [outcome] at reply
  cases result with
  | ok bytes =>
    simp only
    cases decoded : request.decoder.decode bytes with
    | ok value =>
      have found : (found p).Stands bus earlier producers device (before ++ [request.call]) :=
        ⟨tried, rest, before, request.call, bytes, split, vain, read, reply.symm, rfl⟩
      exact found.advances (since.still (next.note_since _))
    | error f => exact .inl ⟨_, rfl⟩
  | error f =>
    cases f with
    | transport fault =>
      have failed : isFault (bus.outcome (before.reverse ++ earlier) request.call) = true :=
        isFault_iff.mpr ⟨fault, reply.symm⟩
      have goes : (trying rest).Stands bus earlier producers device (before ++ [request.call]) :=
        ⟨tried ++ [p], by rw [split, List.append_assoc]; rfl, vain.more read failed⟩
      exact goes.advances since
    | _ => exact .inl ⟨_, rfl⟩

theorem step_advances (same : link.bus = bus) (made : link.made = calls.reverse ++ earlier)
    (stands : probe.Stands bus earlier producers device calls) :
    Advances bus earlier producers device calls link
      ((probe.step device link).1, (probe.step device link).2.1) := by
  unfold step
  split
  · obtain ⟨tried, split, vain⟩ := stands
    rw [List.append_nil] at split
    subst split
    have absent : absent.Stands bus earlier producers device calls := vain
    exact absent.advances (.refl link)
  · rename_i p rest
    obtain ⟨tried, split, vain⟩ := stands
    split
    · exact .inl ⟨_, rfl⟩
    · rename_i request probed
      split
      · exact .inl ⟨_, rfl⟩
      · rename_i next exchange begun
        obtain ⟨since, outcome⟩ := Link.beginQuery_since begun
        rw [same, made] at outcome
        split
        · exact .inr ⟨[request.call], since, tried, calls, split, vain,
            Producer.probe_read probed, rfl, outcome⟩
        · exact .inl ⟨_, rfl⟩
  · exact settle_advances link stands
  · exact stands.advances (.refl link)

end Probe

namespace Scanner

inductive Run (s₀ : Scanner) (link₀ : Link) : Scanner → Link → Prop where
  | start : Run s₀ link₀ s₀ link₀
  | step : Run s₀ link₀ s link → Run s₀ link₀ (s.step link).1 (s.step link).2.1
  | clock (now : Binary64) : Run s₀ link₀ s link → Run s₀ link₀ s { link with now := now }
  | cancel : Run s₀ link₀ s link → Run s₀ link₀ (s.cancel link).1 (s.cancel link).2

/-- The visits that are over, with the calls made since at the next address. -/
structure Visited (producers : List Producer) (link₀ : Link) (report : ScanReport) (link : Link)
    (visits : List Visit) (calls : List Call) : Prop where
  swept : Swept link₀.bus link₀.made producers visits
  report : report = Visit.report visits
  since : link₀.Since link (visits.flatMap Visit.calls ++ calls)

structure Next (visits : List Visit) (device : Int) : Prop where
  address : device = Device.first + visits.length
  valid : device ≤ Device.last

def Stands (producers : List Producer) (link₀ : Link) (s : Scanner) (link : Link) : Prop :=
  match s.stage with
  | .starting => Visited producers link₀ s.report link [] []
  | .pacing device =>
    ∃ visits, Next visits device ∧ Visited producers link₀ s.report link visits []
  | .probing device probe =>
    (∃ f, probe = .failed f) ∨
      ∃ visits calls, Next visits device ∧ Visited producers link₀ s.report link visits calls ∧
        probe.Stands link₀.bus ((visits.flatMap Visit.calls).reverse ++ link₀.made) producers
          device calls
  | .done => ∃ visits, visits.length = 247 ∧ Visited producers link₀ s.report link visits []
  | .failed _ | .cancelled => True

variable {producers : List Producer} {link₀ link next : Link} {s : Scanner} {visits : List Visit}
  {calls : List Call} {device : Int}

theorem Visited.on {report : ScanReport} (visited : Visited producers link₀ report link visits calls)
    (since : link.Since next []) : Visited producers link₀ report next visits calls :=
  ⟨visited.swept, visited.report, visited.since.still since⟩

theorem pace_stands (since : Visited producers link₀ s.report link visits [])
    (next : Next visits device) :
    Stands producers link₀ (s.pace device link).1 (s.pace device link).2.1 := by
  unfold pace
  split
  · exact ⟨visits, next, since⟩
  · trivial

/-- What the notices of a report keep, the end of a scan keeps. -/
theorem finish_keeps {P : Link → Prop} (s : Scanner)
    (noted : ∀ link notice, P link → P (link.note notice)) (timed : P (link.setTimeout s.previous)) :
    P (s.finish link).2.1 := by
  unfold finish
  simp only
  generalize s.report.summary = lines
  generalize link.setTimeout s.previous = next at timed ⊢
  induction lines generalizing next with
  | nil => exact timed
  | cons line lines ih => exact ih _ (noted _ _ timed)

theorem finish_since (s : Scanner) (link : Link) : link.Since (s.finish link).2.1 [] :=
  s.finish_keeps (P := fun next => link.Since next [])
    (fun next notice since => since.still (next.note_since notice)) (link.setTimeout_since s.previous)

/-- With the last visit the scanner goes on to the next address, or it is done. -/
theorem goOn_stands {v : Visit} (here : Next visits device)
    (visited : Visited producers link₀ s.report link (visits ++ [v]) []) :
    Stands producers link₀ (s.goOn device link).1 (s.goOn device link).2.1 := by
  obtain ⟨address, valid⟩ := here
  have count : (visits ++ [v]).length = visits.length + 1 := List.length_append
  unfold goOn
  split
  · rename_i before
    refine pace_stands visited ⟨?_, by omega⟩
    rw [count, address]
    omega
  · rename_i after
    have all : (visits ++ [v]).length = 247 := by
      unfold Device.first at address
      unfold Device.last at valid after
      omega
    exact ⟨_, all, visited.swept, visited.report, visited.since.still (s.finish_since link)⟩

/-- An address of which is known what becomes of it counts as visited. -/
theorem Visited.visit {report : ScanReport}
    (visited : Visited producers link₀ s.report link visits calls) (finding : Option Producer)
    (here : Next visits device)
    (right : Visit.Right link₀.bus ((visits.flatMap Visit.calls).reverse ++ link₀.made) producers
      ⟨device, calls, finding⟩)
    (reports : report = Visit.report (visits ++ [⟨device, calls, finding⟩])) :
    Visited producers link₀ report link (visits ++ [⟨device, calls, finding⟩]) [] where
  swept := visited.swept.snoc here.address right
  report := reports
  since := by
    rw [List.flatMap_append, List.flatMap_singleton, List.append_nil]
    exact visited.since

theorem Visited.made (visited : Visited producers link₀ s.report link visits calls) :
    link.made = calls.reverse ++ ((visits.flatMap Visit.calls).reverse ++ link₀.made) := by
  rw [visited.since.made, List.reverse_append, List.append_assoc]

theorem pace_producers (s : Scanner) (device : Int) (link : Link) :
    (s.pace device link).1.producers = s.producers := by
  unfold pace
  split <;> rfl

theorem goOn_producers (s : Scanner) (device : Int) (link : Link) :
    (s.goOn device link).1.producers = s.producers := by
  unfold goOn
  split
  · exact s.pace_producers _ _
  · rfl

theorem step_producers (s : Scanner) (link : Link) : (s.step link).1.producers = s.producers := by
  unfold step
  split
  case h_1 => exact pace_producers _ _ _
  case h_3 => exact goOn_producers _ _ _
  case h_4 => exact goOn_producers _ _ _
  all_goals rfl

theorem pace_uncancelled (device : Int) : (s.pace device link).1.stage ≠ .cancelled := by
  unfold pace fail
  split <;> simp

theorem goOn_uncancelled (device : Int) : (s.goOn device link).1.stage ≠ .cancelled := by
  unfold goOn finish
  split
  · exact pace_uncancelled _
  · simp

/-- A scan does not cancel itself. -/
theorem step_uncancelled (uncancelled : s.stage ≠ .cancelled) :
    (s.step link).1.stage ≠ .cancelled := by
  unfold step
  split
  · exact pace_uncancelled _
  · simp
  · exact goOn_uncancelled _
  · exact goOn_uncancelled _
  · simp [fail]
  · simp
  all_goals exact uncancelled

/-- An address is visited as far as its probe has come, and is left with its place in the report. -/
theorem probing_stands {device : Int} {probe : Probe} (probing : s.stage = .probing device probe)
    (stands : Stands producers link₀ s link) :
    Stands producers link₀ (s.step link).1 (s.step link).2.1 := by
  unfold Stands at stands
  unfold step
  rw [probing] at stands ⊢
  rcases stands with ⟨f, rfl⟩ | ⟨visits, calls, here, visited, stands⟩
  · trivial
  · have advances := probe.step_advances visited.since.bus visited.made stands
    cases probe with
    | found p =>
      have report : (⟨s.report.devices ++ [(device, p.meterType)], s.report.absent⟩ : ScanReport) =
          Visit.report (visits ++ [⟨device, calls, some p⟩]) := by
        rw [Visit.report_found, visited.report]
      exact goOn_stands here (visited.visit (some p) here stands report)
    | absent =>
      have report : (⟨s.report.devices, s.report.absent ++ [device]⟩ : ScanReport) =
          Visit.report (visits ++ [⟨device, calls, none⟩]) := by
        rw [Visit.report_absent, visited.report]
      have noted := visited.on (link.note_since (.deviceAbsent device))
      exact goOn_stands here (noted.visit none here stands report)
    | failed f => trivial
    | _ =>
      rcases advances with ⟨f, failed⟩ | ⟨more, since, stands⟩
      · exact .inl ⟨f, failed⟩
      · refine .inr ⟨visits, calls ++ more, here, ⟨visited.swept, visited.report, ?_⟩, stands⟩
        rw [← List.append_assoc]
        exact visited.since.trans since

/-- Each step keeps the scanner where it is to be. -/
theorem step_stands (same : s.producers = producers) (stands : Stands producers link₀ s link) :
    Stands producers link₀ (s.step link).1 (s.step link).2.1 := by
  cases stage : s.stage with
  | probing device probe => exact probing_stands stage stands
  | starting =>
    unfold Stands at stands
    unfold step
    rw [stage] at stands ⊢
    have noted := stands.on ((link.note_since .scanStarted).still (Link.setTimeout_since _ s.timeout))
    exact pace_stands noted ⟨(Int.add_zero _).symm, by decide⟩
  | pacing device =>
    unfold Stands at stands
    unfold step
    rw [stage] at stands ⊢
    obtain ⟨visits, here, visited⟩ := stands
    exact .inr ⟨visits, [], here, visited, [], same.symm, .none⟩
  | _ =>
    unfold step
    rw [stage]
    exact stands

theorem Stands.on (stands : Stands producers link₀ s link) (since : link.Since next []) :
    Stands producers link₀ s next := by
  unfold Stands at stands ⊢
  cases stage : s.stage with
  | starting =>
    rw [stage] at stands
    exact stands.on since
  | pacing device =>
    rw [stage] at stands
    obtain ⟨visits, here, visited⟩ := stands
    exact ⟨visits, here, visited.on since⟩
  | probing device probe =>
    rw [stage] at stands
    rcases stands with failed | ⟨visits, calls, here, visited, stands⟩
    · exact .inl failed
    · exact .inr ⟨visits, calls, here, visited.on since, stands⟩
  | done =>
    rw [stage] at stands
    obtain ⟨visits, all, visited⟩ := stands
    exact ⟨visits, all, visited.on since⟩
  | failed f => trivial
  | cancelled => trivial

theorem cancel_stands (stands : Stands producers link₀ s link) :
    Stands producers link₀ (s.cancel link).1 (s.cancel link).2 := by
  unfold cancel
  split
  case h_2 => exact stands
  case h_3 => exact stands
  case h_4 => exact stands
  all_goals trivial

theorem Run.stands {timeout delay : Number} (run : Run (make producers timeout delay) link₀ s link) :
    s.producers = producers ∧ Stands producers link₀ s link := by
  induction run with
  | start => exact ⟨rfl, swept_nil _ _ _, rfl, .refl link₀⟩
  | step _ ih => exact ⟨(step_producers _ _).trans ih.1, step_stands ih.1 ih.2⟩
  | clock now _ ih => exact ⟨ih.1, ih.2.on (Link.setNow_since _ now)⟩
  | cancel _ ih =>
    refine ⟨?_, cancel_stands ih.2⟩
    rw [← ih.1]
    unfold Scanner.cancel
    split <;> rfl

/-! ## The scanner by itself -/

theorem Run.loop {s₀ : Scanner} {loop next : Loop Unit (Solitary Scanner)}
    (run : Run s₀ link₀ loop.shared.state loop.shared.link)
    (step : Loop.Step (Solitary.tasks Scanner.step Scanner.hasEnded) loop next) :
    Run s₀ link₀ next.shared.state next.shared.link := by
  cases step with
  | run task running =>
    rw [Loop.runTask_shared]
    exact run.step
  | pick task rest running ready => exact run
  | wait deadline running ready earliest => exact run.clock deadline

/-- A scan by itself is such a run. -/
theorem solitary_runs (s₀ : Scanner) (link₀ : Link) (alarm : Option Binary64) :
    let s := Solitary.run Scanner.step Scanner.hasEnded alarm ⟨s₀, link₀⟩
    Run s₀ link₀ s.state s.link :=
  Loop.iterate_steps (P := fun loop => Run s₀ link₀ loop.shared.state loop.shared.link)
    (fun run stepped => run.loop (Loop.step_of_step? stepped).2) Loop.stepLimit .start

theorem run_runs (s₀ : Scanner) (link₀ : Link) :
    Run s₀ link₀ (s₀.run link₀).1 (s₀.run link₀).2 :=
  solitary_runs s₀ link₀ none

/-- So is one for a limited time, whether or not it is interrupted. -/
theorem runFor_runs (s₀ : Scanner) (limit : Number) (link₀ : Link) :
    Run s₀ link₀ (s₀.runFor limit link₀).1 (s₀.runFor limit link₀).2 := by
  have last := solitary_runs s₀ link₀ (some (Link.after link₀.now limit))
  unfold runFor
  simp only
  split
  · exact last
  · exact (last.clock _).cancel

end Scanner

end MeterPolling
