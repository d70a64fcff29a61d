import MeterPolling.Proofs.Agent.Balance
import MeterPolling.Proofs.Agent.Outcome
import MeterPolling.Proofs.Exchange
/-!
Malformed requests. An agent ends over the first one that it takes, before anything is asked or
counted for it, and leaves all that was put later in the queue. Nothing else ends an agent with a
fault of the configuration: neither what the client comes back with nor a reply that cannot be
decoded is one, and what passes the check of requests passes that of the session as well.
-/
namespace MeterPolling

/-- A request for no register, or with a function that does not read registers. -/
def Request.IsMalformed (r : Request) : Prop :=
  r.count ≤ 0 ∨ r.function ≠ 3 ∧ r.function ≠ 4

variable {bus : Bus} {limit : Nat} {earlier : List Call} {r : Request} {f : Failure}
  {fault : ConfigurationFault}

/-! ## Requests -/

theorem Request.refusal_none_iff : r.refusal? = none ↔ ¬ r.IsMalformed := by
  unfold refusal? IsMalformed
  by_cases counted : r.count ≤ 0
  · simp [counted]
  · rw [if_neg counted]
    by_cases known : Session.isReadFunction r.function = true
    · have read := Session.isReadFunction_iff.mp known
      rw [if_pos known]
      exact iff_of_true rfl (by tauto)
    · have other := mt Session.isReadFunction_iff.mpr known
      rw [if_neg known]
      exact iff_of_false (by simp) (by tauto)

/-- A decoder whose scalar is near to a binary64 number has a name, and so have its requests. -/
theorem Request.name_isSome (near : r.decoder.scalar.toBinary64?.isSome) : r.name?.isSome := by
  have brief : r.decoder.scalar.briefText?.isSome := by
    rwa [Number.briefText?, Option.isSome_map]
  rw [name?, Option.isSome_map, Decoder.name?]
  split
  · rwa [Option.isSome_map]
  · rfl

theorem Request.IsMalformed.refused (malformed : r.IsMalformed)
    (near : r.decoder.scalar.toBinary64?.isSome) :
    ∃ fault, r.refusal? = some (.configuration fault) := by
  obtain ⟨name, named⟩ := Option.isSome_iff_exists.mp (Request.name_isSome near)
  have refused : r.refusal? ≠ none := fun none => Request.refusal_none_iff.mp none malformed
  unfold Request.refusal? at refused ⊢
  rw [named] at refused ⊢
  by_cases counted : r.count ≤ 0
  · rw [if_pos counted]
    exact ⟨_, rfl⟩
  · rw [if_neg counted] at refused ⊢
    by_cases known : Session.isReadFunction r.function = true
    · rw [if_pos known] at refused
      exact absurd rfl refused
    · rw [if_neg known]
      exact ⟨_, rfl⟩

/-- What the client comes back with is never a fault of the configuration. -/
theorem Exchange.settle_unconfigured (x : Exchange) : x.settle ≠ .error (.configuration fault) := by
  unfold settle
  cases x.answer with
  | raised e => cases own : e.isProtocol <;> simp [own]
  | exception code => simp
  | registers words =>
    simp only
    split <;> simp
  | misfit count value =>
    simp only
    split <;> simp

namespace Bus

/-- Only a request that is refused is treated with a fault of the configuration. -/
theorem treat_configuration
    (failed : (bus.treat limit earlier r).verdict = .failed (.configuration fault)) :
    r.refusal? = some (.configuration fault) := by
  rcases attempts_split bus limit earlier r with faults | ⟨k, within, faults, decided⟩
  · rw [treat_silent faults] at failed
    cases failed
  · rw [treat_decided within faults decided] at failed
    cases refusal : r.refusal? with
    | some f =>
      rw [attempt_refused refusal] at failed
      cases failed
      rfl
    | none =>
      rw [attempt_accepted refusal] at failed
      cases outcome : bus.outcome (List.replicate k r.call ++ earlier) r.call with
      | error f =>
        rw [outcome] at failed
        cases failed
        exact absurd outcome (Exchange.settle_unconfigured _)
      | ok bytes =>
        rw [outcome] at failed
        unfold Request.verdict at failed
        simp only at failed
        split at failed <;> cases failed

/-- A course that has not ended took no request that is refused. -/
theorem course_accepted {cases : List Case} {items : List (Option Request)} (tries : 0 < limit)
    (whole : bus.course limit earlier items = (cases, none)) :
    ∀ c ∈ cases, c.request.refusal? = none := by
  induction items generalizing earlier cases with
  | nil =>
    cases whole
    simp
  | cons item items ih =>
    obtain ⟨r, tail, rfl, goes_on, rfl, later⟩ := course_cons_whole whole
    intro c member
    rcases List.mem_cons.mp member with rfl | member
    · rw [treat_request]
      cases refusal : r.refusal? with
      | none => rfl
      | some f =>
        rw [treat_refused refusal tries] at goes_on
        cases goes_on
    · exact ih later c member

theorem course_not_mem {cases : List Case} {items : List (Option Request)} (tries : 0 < limit)
    (whole : bus.course limit earlier items = (cases, none)) (refused : r.refusal? = some f) :
    some r ∉ items := by
  intro member
  rw [course_items whole] at member
  obtain ⟨c, among, same⟩ := List.mem_map.mp member
  cases same
  rw [course_accepted tries whole c among] at refused
  cases refused

/-- What is refused can only stand right after such a course. -/
theorem course_latest {cases : List Case} {items : List (Option Request)} {item : Option Request}
    (tries : 0 < limit) (whole : bus.course limit earlier items = (cases, none))
    (refused : r.refusal? = some f) (member : some r ∈ items ++ [item]) : item = some r := by
  rcases List.mem_append.mp member with before | latest
  · exact absurd before (course_not_mem tries whole refused)
  · exact (List.mem_singleton.mp latest).symm

end Bus

namespace Agent

/-! ## Where the agent stands -/

inductive Stage.Refusing (settings : Settings) (r : Request) (f : Failure) : Stage → Prop where
  | settles : Refusing settings r f (.settling r)
  | asks : Refusing settings r f (.asking r 1)
  | fails : Refusing settings r f (.ended (.failed f))
  | overlong : Pause.ofDelay? settings.settleDelay = none →
      Refusing settings r f (.ended (.failed .tooLarge))
  | cancelled : Refusing settings r f (.ended .cancelled)

/-- The items taken are the requests of some cases and then one more. The cases have taken their
course, and all that is on record and was counted is theirs. -/
structure Follows (bus : Bus) (limit : Nat) (taken : List (Option Request)) (ledger : Ledger)
    (cases : List Case) (r : Request) : Prop where
  split : taken = (cases.map fun c => some c.request) ++ [some r]
  course : bus.course limit [] (cases.map fun c => some c.request) = (cases, none)
  ledger : ledger = Case.ledger cases

variable {timeout : Number} {settings : Settings} {taken : List (Option Request)} {a : Agent}
  {line line₀ : Line} {ledger : Ledger} {stage : Stage} {cases : List Case} {made failed : Nat}
  {puts : List (Option Request)} {q : Request}

theorem follows_of_course {before : List (Option Request)}
    (whole : bus.course limit [] before = (cases, none)) (ledger : Ledger)
    (same : ledger = Case.ledger cases) (r : Request) :
    Follows bus limit (before ++ [some r]) ledger cases r := by
  have items := Bus.course_items whole
  refine ⟨by rw [← items], ?_, same⟩
  rw [← items]
  exact whole

theorem UnderWay.follows (under : UnderWay bus limit taken ledger cases r 0 0) :
    Follows bus limit taken ledger cases r := by
  obtain ⟨before, rfl, whole⟩ := under.course
  exact follows_of_course whole ledger (under.ledger.trans (Ledger.enter_zero _ r)) r

/-- A request that is refused is the one under way. -/
theorem UnderWay.refused (under : UnderWay bus limit taken ledger cases q made failed)
    (tries : 0 < limit) (member : some r ∈ taken) (refused : r.refusal? = some f) : q = r := by
  obtain ⟨before, rfl, whole⟩ := under.course
  exact Option.some.inj (Bus.course_latest tries whole refused member)

/-- After a failed attempt the request under way is known not to be refused. -/
theorem UnderWay.accepted (under : UnderWay bus limit taken ledger cases q made failed)
    (tried : 0 < failed) : q.refusal? = none :=
  Bus.fault_accepted (under.faults 0 tried)

theorem Working.refusing (working : Working bus timeout limit taken ledger stage)
    (tries : 0 < limit) (member : some r ∈ taken) (refused : r.refusal? = some f) :
    (stage = .settling r ∨ stage = .asking r 1) ∧ ∃ cases, Follows bus limit taken ledger cases r := by
  have contradictory (accepted : r.refusal? = none) : False := by
    rw [refused] at accepted
    cases accepted
  cases stage with
  | idle =>
    obtain ⟨cases, whole, _⟩ := working
    exact absurd member (Bus.course_not_mem tries whole refused)
  | settling q =>
    obtain ⟨cases, under⟩ := working
    obtain rfl := under.refused tries member refused
    exact ⟨.inl rfl, cases, under.follows⟩
  | asking q attempt =>
    obtain ⟨cases, k, rfl, under⟩ := working
    obtain rfl := under.refused tries member refused
    cases k with
    | zero => exact ⟨.inr rfl, cases, under.follows⟩
    | succ k => exact (contradictory (under.accepted (Nat.succ_pos k))).elim
  | waiting q attempt exchange =>
    obtain ⟨cases, k, rfl, _, accepted, under, _⟩ := working
    obtain rfl := under.refused tries member refused
    exact (contradictory accepted).elim
  | retrying q attempt =>
    obtain ⟨cases, k, rfl, under⟩ := working
    obtain rfl := under.refused tries member refused
    exact (contradictory (under.accepted (Nat.succ_pos k))).elim
  | delivering reading =>
    obtain ⟨cases, c, treated, result, under⟩ := working
    have same := under.refused tries member refused
    rw [same, Bus.treat_refused refused tries] at treated
    rw [treated] at result
    cases result
  | reporting control =>
    obtain ⟨cases, c, whole, _⟩ := working
    exact absurd member (Bus.course_not_mem tries whole refused)
  | ended outcome => exact working.elim

theorem Working.delayed {delay : Number} (among : stage = .settling r ∨ stage = .asking r 1)
    (paused : stage.delay? settings = some delay) : delay = settings.settleDelay := by
  rcases among with rfl | rfl
  · exact (Option.some.inj paused).symm
  · cases paused

theorem Stage.Refusing.working (among : stage = .settling r ∨ stage = .asking r 1) :
    stage.Refusing settings r f := by
  rcases among with rfl | rfl
  · exact .settles
  · exact .asks

/-- Whatever became of the agent, it went no further than the request that is refused. -/
theorem Standing.refusing (stands : Standing bus timeout settings taken ledger stage)
    (tries : 0 < settings.attempts) (member : some r ∈ taken) (refused : r.refusal? = some f) :
    stage.Refusing settings r f ∧ ∃ cases, Follows bus settings.attempts taken ledger cases r := by
  cases stage with
  | ended outcome =>
    cases outcome with
    | told =>
      obtain ⟨before, cases, rfl, whole, _⟩ := stands
      cases Bus.course_latest tries whole refused member
    | failed g =>
      rcases stands with ⟨before, cases, c, rfl, whole, treated, verdict, closed⟩ |
        ⟨rfl, stage, delay, working, paused, endless⟩
      · have same : c.request = r :=
          Option.some.inj (Bus.course_latest tries whole refused member)
        rw [same, Bus.treat_refused refused tries] at treated
        subst treated
        cases verdict
        rw [ledger_failed, Nat.zero_sub, Ledger.enter_zero] at closed
        exact ⟨.fails, cases, follows_of_course whole ledger closed r⟩
      · obtain ⟨among, follows⟩ := working.refusing tries member refused
        rw [Working.delayed among paused] at endless
        exact ⟨.overlong endless, follows⟩
    | cancelled =>
      obtain ⟨stage, working⟩ := stands
      exact ⟨.cancelled, (working.refusing tries member refused).2⟩
  | _ =>
    obtain ⟨among, follows⟩ := (stands.working (by simp)).refusing tries member refused
    exact ⟨.working among, follows⟩

/-- Only over a request that is refused does an agent fail with a fault of the configuration. -/
theorem Standing.configuration
    (stands : Standing bus timeout settings taken ledger (.ended (.failed (.configuration fault)))) :
    ∃ r, some r ∈ taken ∧ r.refusal? = some (.configuration fault) := by
  rcases stands with ⟨before, cases, c, rfl, _, treated, verdict, _⟩ | ⟨overlong, _⟩
  · rw [treated] at verdict
    exact ⟨c.request, by simp, Bus.treat_configuration verdict⟩
  · cases overlong

/-! ## What the agent does next -/

theorem ask_refused (line : Line) (refused : r.refusal? = some f) {number : Nat}
    (left : number ≤ a.settings.attempts) : (a.ask line r number).1.stage = .ended (.failed f) := by
  unfold ask
  rw [if_neg (Nat.not_lt.mpr left), Link.beginQuery_refused refused]
  rfl

theorem step_ended {outcome : Outcome} (line : Line) (ended : a.stage = .ended outcome) :
    a.step line = (a, line, .ends) := by
  simp only [step, ended]

theorem advance_ended {outcome : Outcome} (line : Line) (ended : a.stage = .ended outcome) (n : Nat) :
    (a.advance n line).1 = a := by
  induction n generalizing line with
  | zero => rfl
  | succ n ih =>
    rw [advance, step_ended line ended]
    exact ih line

theorem advance_asking (line : Line) (asking : a.stage = .asking r 1) (refused : r.refusal? = some f)
    (tries : 0 < a.settings.attempts) (n : Nat) :
    (a.advance (n + 1) line).1.stage = .ended (.failed f) := by
  have failed : (a.step line).1.stage = .ended (.failed f) := by
    rw [step, asking]
    exact ask_refused line refused tries
  rw [advance, advance_ended _ failed n]
  exact failed

/-- A request in hand that is refused ends the agent in two steps at most. -/
theorem Stage.Refusing.ends (refusing : a.stage.Refusing settings r f) (line : Line)
    (refused : r.refusal? = some f) (tries : 0 < a.settings.attempts)
    (uncancelled : a.stage ≠ .ended .cancelled) :
    (a.advance 2 line).1.stage = .ended (.failed f) ∨
      a.stage = .ended (.failed .tooLarge) ∧ Pause.ofDelay? settings.settleDelay = none := by
  generalize stage : a.stage = at_stage at refusing uncancelled
  cases refusing with
  | settles =>
    have next : (a.step line).1.stage = .asking r 1 := by rw [step, stage]
    have kept : (a.step line).1.settings = a.settings := by rw [step, stage]
    refine .inl ?_
    rw [advance]
    exact advance_asking _ next refused (kept ▸ tries) 0
  | asks => exact .inl (advance_asking line stage refused tries 1)
  | fails =>
    refine .inl ?_
    rw [advance_ended line stage 2]
    exact stage
  | overlong endless => exact .inr ⟨rfl, endless⟩
  | cancelled => exact absurd rfl uncancelled

/-! ## Runs -/

/-- Some requests, none of them malformed, were treated in their course, with an outcome for each;
then this one was taken. Nothing was asked, counted, delivered or reported but for those before. -/
structure Untouched (bus : Bus) (limit : Nat) (taken : List (Option Request)) (link : Link)
    (cases : List Case) (r : Request) : Prop where
  first : taken = (cases.map fun c => some c.request) ++ [some r]
  proper : ∀ c ∈ cases, ¬ c.request.IsMalformed
  course : bus.course limit [] (cases.map fun c => some c.request) = (cases, none)
  calls : link.recorded Event.call? = Case.allAsked cases
  results : (link.recorded Event.reading?).map Reading.result = cases.filterMap Case.result?
  controls : cases.map Case.control? = (link.recorded Event.control?).map some
  counters : link.counters = Case.tally cases

theorem Follows.untouched {link : Link} (follows : Follows bus limit taken link.ledger cases r)
    (tries : 0 < limit) : Untouched bus limit taken link cases r := by
  obtain ⟨split, course, ledger⟩ := follows
  have deeds : link.deeds = Case.trace cases := congrArg Ledger.deeds ledger
  constructor
  case first => exact split
  case proper =>
    intro c member
    exact Request.refusal_none_iff.mp (Bus.course_accepted tries course c member)
  case course => exact course
  case calls => rw [← Link.deeds_calls, deeds, Case.trace_calls]
  case results => rw [← Link.deeds_results, deeds, Case.trace_results]
  case controls =>
    rw [← Link.deeds_controls, deeds, Case.trace_controls]
    exact filterMap_control (Bus.course_goes_on course)
  case counters => exact congrArg Ledger.counters ledger

end Agent

end MeterPolling
