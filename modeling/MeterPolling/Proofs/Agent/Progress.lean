import Mathlib.Data.List.ReduceOption
import MeterPolling.Proofs.Agent.Run
/-!
How far an agent has come, with the stages left out: all requests taken are dealt with completely,
except at most the last one, of which others have seen a part that does not include its control.
-/
namespace MeterPolling

namespace Case

theorem trace_append (cases more : List Case) :
    trace (cases ++ more) = trace cases ++ trace more := List.flatMap_append

theorem trace_singleton (c : Case) : trace [c] = c.deeds := List.flatMap_singleton _ _

theorem deeds_results (c : Case) : c.deeds.filterMap Deed.result? = c.result?.toList := by
  unfold deeds result? control? asked
  cases c.verdict <;> simp [List.filterMap_append, List.filterMap_replicate, List.filterMap_cons]

theorem deeds_controls (c : Case) : c.deeds.filterMap Deed.control? = c.control?.toList := by
  unfold deeds result? control? asked
  cases c.verdict <;> simp [List.filterMap_append, List.filterMap_replicate, List.filterMap_cons]

theorem trace_results (cases : List Case) :
    (trace cases).filterMap Deed.result? = cases.filterMap Case.result? := by
  induction cases with
  | nil => rfl
  | cons c cases ih =>
    rw [trace, List.flatMap_cons, List.filterMap_append, deeds_results, ← trace, ih]
    cases result : c.result? <;> simp [result]

theorem trace_controls (cases : List Case) :
    (trace cases).filterMap Deed.control? = cases.filterMap Case.control? := by
  induction cases with
  | nil => rfl
  | cons c cases ih =>
    rw [trace, List.flatMap_cons, List.filterMap_append, deeds_controls, ← trace, ih]
    cases control : c.control? <;> simp [control]

/-- Only a case that ends the agent has no control. -/
theorem control_isSome {c : Case} (goes_on : c.ending? = none) : c.control?.isSome := by
  unfold ending? at goes_on
  unfold control?
  cases verdict : c.verdict with
  | failed f => simp [verdict] at goes_on
  | _ => rfl

end Case

namespace Agent

structure Progress (bus : Bus) (timeout : Number) (settings : Settings)
    (taken : List (Option Request)) (deeds : List Deed) (stage : Stage)
    (closed current : List Case) (part : List Deed) : Prop where
  course : (bus.course settings.attempts [] taken).1 = closed ++ current
  requests : taken.reduceOption = (closed ++ current).map Case.request
  one : current.length ≤ 1
  deeds : deeds = Case.trace closed ++ part
  seen : part <+: Case.trace current
  unreported : part.filterMap Deed.control? = []
  goes_on : ∀ c ∈ closed, c.ending? = none
  /-- Only after all requests are dealt with does the agent ask for more or do as it is told. -/
  rests : stage = .idle ∨ stage = .ended .told → current = []
  /-- A request over which the agent fails has no result. It is the failure of the request itself,
  or of a pause that is too long. -/
  failed : ∀ f, stage = .ended (.failed f) → part.filterMap Deed.result? = [] ∧
    ∃ c, current = [c] ∧ (c.verdict = .failed f ∨ Overlong bus timeout settings f)

variable {bus : Bus} {timeout : Number} {settings : Settings} {taken : List (Option Request)}
  {ledger : Ledger} {stage : Stage} {cases : List Case} {r : Request}
  {made failed : Nat}

theorem items_reduceOption (cases : List Case) :
    (cases.map fun c => some c.request).reduceOption = cases.map Case.request := by
  simp [List.reduceOption, List.filterMap_map]

theorem progress_whole (whole : bus.course settings.attempts [] taken = (cases, none))
    (alive : ∀ f, stage ≠ .ended (.failed f)) :
    Progress bus timeout settings taken (Case.ledger cases).deeds stage cases [] [] where
  course := by simp [whole]
  requests := by rw [Bus.course_items whole, items_reduceOption, List.append_nil]
  one := Nat.zero_le 1
  deeds := (List.append_nil _).symm
  seen := List.prefix_refl _
  unreported := rfl
  goes_on := Bus.course_goes_on whole
  rests _ := rfl
  failed f ended := absurd ended (alive f)

theorem progress_underWay (under : UnderWay bus settings.attempts taken ledger cases r made failed)
    (begun : made ≤ (bus.treat settings.attempts (Case.allAsked cases).reverse r).calls)
    (busy : stage ≠ .idle ∧ stage ≠ .ended .told)
    (alive : ∀ f, stage = .ended (.failed f) → Overlong bus timeout settings f) :
    Progress bus timeout settings taken ledger.deeds stage cases
      [bus.treat settings.attempts (Case.allAsked cases).reverse r]
      (List.replicate made (.asked r.call)) where
  course := by rw [under.treated]
  requests := by rw [under.items (Bus.treat_request ..), items_reduceOption]
  one := Nat.le_refl 1
  deeds := by rw [under.ledger]; rfl
  seen := by
    rw [Case.trace_singleton, Case.deeds, List.append_assoc, Case.asked, List.map_replicate,
      Bus.treat_request]
    obtain ⟨more, rest⟩ := Nat.exists_eq_add_of_le begun
    rw [rest, ← List.replicate_append_replicate, List.append_assoc]
    exact List.prefix_append _ _
  unreported := by simp [List.filterMap_replicate]
  goes_on := by
    obtain ⟨before, rfl, whole⟩ := under.course
    exact Bus.course_goes_on whole
  rests resting := (resting.elim busy.1 busy.2).elim
  failed f ended := ⟨by simp [List.filterMap_replicate], _, rfl, .inr (alive f ended)⟩

/-- All but the last control is seen of a case that is about to be closed. -/
theorem progress_reporting {c : Case} {control : Control}
    (whole : bus.course settings.attempts [] taken = (cases ++ [c], none))
    (reported : c.control? = some control)
    (closes : ledger.add (.reported control) = Case.ledger (cases ++ [c]))
    (busy : stage ≠ .idle ∧ stage ≠ .ended .told)
    (alive : ∀ f, stage ≠ .ended (.failed f)) :
    Progress bus timeout settings taken ledger.deeds stage cases [c]
      (c.asked.map .asked ++ c.result?.toList.map fun r => .delivered r.1 r.2) where
  course := by rw [whole]
  requests := by rw [Bus.course_items whole, items_reduceOption]
  one := Nat.le_refl 1
  deeds := by
    have all := congrArg Ledger.deeds closes
    simp only [Ledger.add, Case.ledger, Case.trace_append, Case.trace_singleton, Case.deeds,
      reported, Option.toList_some, List.map_cons, List.map_nil] at all
    rw [← List.append_assoc] at all
    exact List.append_cancel_right all
  seen := by
    rw [Case.trace_singleton, Case.deeds]
    exact List.prefix_append _ _
  unreported := by
    cases c.result? <;> simp [Case.asked, List.filterMap_replicate, List.filterMap_append]
  goes_on d member := Bus.course_goes_on whole d (List.mem_append_left _ member)
  rests resting := (resting.elim busy.1 busy.2).elim
  failed f ended := absurd ended (alive f)

theorem Working.paused {delay : Number}
    (working : Working bus timeout settings.attempts taken ledger stage)
    (paused : stage.delay? settings = some delay) :
    ∃ cases r made failed, UnderWay bus settings.attempts taken ledger cases r made failed ∧
      made ≤ (bus.treat settings.attempts (Case.allAsked cases).reverse r).calls := by
  cases stage with
  | settling r =>
    obtain ⟨cases, under⟩ := working
    exact ⟨cases, r, 0, 0, under, Nat.zero_le _⟩
  | waiting r attempt exchange =>
    obtain ⟨cases, k, rfl, below, accepted, under, rfl⟩ := working
    exact ⟨cases, r, k + 1, k, under, Bus.made_le_calls accepted below under.faults⟩
  | retrying r attempt =>
    obtain ⟨cases, k, rfl, under⟩ := working
    exact ⟨cases, r, k + 1, k + 1, under, Bus.faults_le_calls under.within under.faults⟩
  | _ => cases paused

/-- Before the end, and where an agent was cancelled before it. -/
theorem Working.progress {reached : Stage} (there : reached = stage ∨ reached = .ended .cancelled)
    (working : Working bus timeout settings.attempts taken ledger stage) :
    ∃ closed current part,
      Progress bus timeout settings taken ledger.deeds reached closed current part := by
  have alive : ∀ f, reached ≠ .ended (.failed f) := by
    rcases there with rfl | rfl
    · rintro f rfl
      exact working
    · simp
  have unfailed : ∀ f, reached = .ended (.failed f) → Overlong bus timeout settings f :=
    fun f ended => absurd ended (alive f)
  have busy (resting : stage ≠ .idle) : reached ≠ .idle ∧ reached ≠ .ended .told := by
    rcases there with rfl | rfl
    · exact ⟨resting, by rintro rfl; exact working⟩
    · simp
  cases stage with
  | idle =>
    obtain ⟨cases, whole, rfl⟩ := working
    exact ⟨cases, [], [], progress_whole whole alive⟩
  | settling r =>
    obtain ⟨cases, under⟩ := working
    exact ⟨_, _, _, progress_underWay under (Nat.zero_le _) (busy (by simp)) unfailed⟩
  | asking r attempt =>
    obtain ⟨cases, k, rfl, under⟩ := working
    have begun := Bus.faults_le_calls under.within under.faults
    exact ⟨_, _, _, progress_underWay under begun (busy (by simp)) unfailed⟩
  | waiting r attempt exchange =>
    obtain ⟨cases, k, rfl, below, accepted, under, rfl⟩ := working
    have begun := Bus.made_le_calls accepted below under.faults
    exact ⟨_, _, _, progress_underWay under begun (busy (by simp)) unfailed⟩
  | retrying r attempt =>
    obtain ⟨cases, k, rfl, under⟩ := working
    have begun := Bus.faults_le_calls under.within under.faults
    exact ⟨_, _, _, progress_underWay under begun (busy (by simp)) unfailed⟩
  | delivering reading =>
    obtain ⟨cases, c, rfl, result, under⟩ := working
    exact ⟨_, _, _, progress_underWay under (Nat.le_refl _) (busy (by simp)) unfailed⟩
  | reporting control =>
    obtain ⟨cases, c, whole, reported, closes⟩ := working
    exact ⟨_, _, _, progress_reporting whole reported closes (busy (by simp)) alive⟩
  | ended outcome => exact working.elim

theorem progress_told {before : List (Option Request)}
    (whole : bus.course settings.attempts [] before = (cases, none)) :
    Progress bus timeout settings (before ++ [none]) (Case.ledger cases).deeds (.ended .told) cases
      [] [] where
  course := by rw [Bus.course_sentinel whole, List.append_nil]
  requests := by
    rw [Bus.course_items whole, List.append_nil, List.reduceOption_append]
    exact (List.append_nil _).trans (items_reduceOption cases)
  one := Nat.zero_le 1
  deeds := (List.append_nil _).symm
  seen := List.prefix_refl _
  unreported := rfl
  goes_on := Bus.course_goes_on whole
  rests _ := rfl
  failed f ended := by cases ended

theorem progress_failed {before : List (Option Request)} {c : Case} {f : Failure}
    (whole : bus.course settings.attempts [] before = (cases, none))
    (treated : c = bus.treat settings.attempts (Case.allAsked cases).reverse c.request)
    (verdict : c.verdict = .failed f) :
    Progress bus timeout settings (before ++ [some c.request]) (Case.ledger (cases ++ [c])).deeds
      (.ended (.failed f)) cases [c] c.deeds where
  course := by rw [Bus.course_snoc whole, ← treated]
  requests := by
    rw [Bus.course_items whole, List.reduceOption_append, List.map_append]
    exact congrArg (· ++ [c.request]) (items_reduceOption cases)
  one := Nat.le_refl 1
  deeds := by rw [Case.ledger, Case.trace_append, Case.trace_singleton]
  seen := ⟨[], (List.append_nil _).trans (Case.trace_singleton c).symm⟩
  unreported := by simp [Case.deeds_controls, Case.control?, verdict]
  goes_on := Bus.course_goes_on whole
  rests resting := absurd resting (by simp)
  failed g ended := by
    cases ended
    exact ⟨by simp [Case.deeds_results, Case.result?, verdict], c, rfl, .inl verdict⟩

/-- Wherever an agent stands, its progress can be told. -/
theorem Standing.progress (stands : Standing bus timeout settings taken ledger stage) :
    ∃ closed current part,
      Progress bus timeout settings taken ledger.deeds stage closed current part := by
  cases stage with
  | ended outcome =>
    cases outcome with
    | told =>
      obtain ⟨before, cases, rfl, whole, rfl⟩ := stands
      exact ⟨cases, [], [], progress_told whole⟩
    | failed f =>
      rcases stands with ⟨before, cases, c, rfl, whole, treated, verdict, rfl⟩ |
        ⟨rfl, stage, delay, working, paused, endless⟩
      · exact ⟨cases, [c], c.deeds, progress_failed whole treated verdict⟩
      · obtain ⟨cases, r, made, failed, under, begun⟩ := working.paused paused
        have overlong : Overlong bus timeout settings .tooLarge :=
          ⟨rfl, delay, working.pauses paused, endless⟩
        refine ⟨_, _, _, progress_underWay under begun (by simp) ?_⟩
        intro f ended
        cases ended
        exact overlong
    | cancelled =>
      obtain ⟨stage, working⟩ := stands
      exact working.progress (.inr rfl)
  | _ => exact (stands.working (by simp)).progress (.inl rfl)

end Agent

end MeterPolling
