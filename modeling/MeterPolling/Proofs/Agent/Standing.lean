import MeterPolling.Proofs.Query
/-!
Where an agent stands in the course of its work. At each stage the items taken so far, the ledger of
the link and the stage itself fit together; each step of the agent keeps them so, whatever else goes
on around it.
-/
namespace MeterPolling.Agent

/-- The request taken last is under way: so many attempts at it were made, and so many of them are
known to have failed. -/
structure UnderWay (bus : Bus) (limit : Nat) (taken : List (Option Request)) (ledger : Ledger)
    (cases : List Case) (r : Request) (made failed : Nat) : Prop where
  course : ∃ before, taken = before ++ [some r] ∧ bus.course limit [] before = (cases, none)
  ledger : ledger = (Case.ledger cases).enter r made failed
  within : failed ≤ limit
  faults : ∀ i < failed, isFault (bus.attempt (Case.allAsked cases).reverse r i) = true

/-- The delay of a stage that is reached by a pause. -/
def Stage.delay? (settings : Settings) : Stage → Option Number
  | .settling _ => some settings.settleDelay
  | .waiting _ _ exchange => exchange.wait
  | .retrying _ _ => some settings.retryDelay
  | _ => none

/-- How long an agent may have to pause: before and after calls, or for a reply. -/
def Pauses (bus : Bus) (timeout : Number) (settings : Settings) (delay : Number) : Prop :=
  delay = settings.settleDelay ∨ delay = settings.retryDelay ∨
    ∃ earlier call, (bus.exchange timeout earlier call).wait = some delay

/-- An agent that fails because it cannot pause for as long as it is to. -/
def Overlong (bus : Bus) (timeout : Number) (settings : Settings) (f : Failure) : Prop :=
  f = .tooLarge ∧ ∃ delay, Pauses bus timeout settings delay ∧ Pause.ofDelay? delay = none

/-- A stage before the end, with the items taken and the ledger that belong to it. Attempts are
counted from one. -/
def Working (bus : Bus) (timeout : Number) (limit : Nat) (taken : List (Option Request))
    (ledger : Ledger) : Stage → Prop
  | .idle => ∃ cases, bus.course limit [] taken = (cases, none) ∧ ledger = Case.ledger cases
  | .settling r => ∃ cases, UnderWay bus limit taken ledger cases r 0 0
  | .asking r attempt =>
    ∃ cases k, attempt = k + 1 ∧ UnderWay bus limit taken ledger cases r k k
  | .waiting r attempt exchange =>
    ∃ cases k, attempt = k + 1 ∧ k < limit ∧ r.refusal? = none ∧
      UnderWay bus limit taken ledger cases r (k + 1) k ∧
      exchange = bus.exchange timeout
        (List.replicate k r.call ++ (Case.allAsked cases).reverse) r.call
  | .retrying r attempt =>
    ∃ cases k, attempt = k + 1 ∧ UnderWay bus limit taken ledger cases r (k + 1) (k + 1)
  | .delivering reading =>
    ∃ cases c, c = bus.treat limit (Case.allAsked cases).reverse reading.request ∧
      c.result? = some reading.result ∧
      UnderWay bus limit taken ledger cases reading.request c.calls c.faults
  | .reporting control =>
    ∃ cases c, bus.course limit [] taken = (cases ++ [c], none) ∧ c.control? = some control ∧
      ledger.add (.reported control) = Case.ledger (cases ++ [c])
  | .ended _ => False

/-- Any stage. An agent that was cancelled stands where it stood; one that failed did so because of
its last request, or because it could not pause for as long as it was to. -/
def Standing (bus : Bus) (timeout : Number) (settings : Settings) (taken : List (Option Request))
    (ledger : Ledger) : Stage → Prop
  | .ended .told =>
    ∃ before cases, taken = before ++ [none] ∧
      bus.course settings.attempts [] before = (cases, none) ∧ ledger = Case.ledger cases
  | .ended (.failed f) =>
    (∃ before cases c, taken = before ++ [some c.request] ∧
        bus.course settings.attempts [] before = (cases, none) ∧
        c = bus.treat settings.attempts (Case.allAsked cases).reverse c.request ∧
        c.verdict = .failed f ∧ ledger = Case.ledger (cases ++ [c])) ∨
      f = .tooLarge ∧ ∃ stage delay, Working bus timeout settings.attempts taken ledger stage ∧
        stage.delay? settings = some delay ∧ Pause.ofDelay? delay = none
  | .ended .cancelled => ∃ stage, Working bus timeout settings.attempts taken ledger stage
  | stage => Working bus timeout settings.attempts taken ledger stage

/-- The items fed so far are those taken, which the agent accounts for, and those still queued. -/
structure Account (bus : Bus) (timeout : Number) (settings : Settings)
    (fed : List (Option Request)) (a : Agent) (line : Line) : Prop where
  same : a.settings = settings
  serves : line.link.Serves bus timeout
  stands : ∃ taken, fed = taken ++ line.requests.items ∧
    Standing bus timeout settings taken line.link.ledger a.stage

variable {bus : Bus} {timeout : Number} {settings : Settings} {fed taken : List (Option Request)}
  {a : Agent} {line : Line} {r : Request} {cases : List Case} {made failed limit : Nat}
  {ledger : Ledger} {stage : Stage}

theorem Working.standing (working : Working bus timeout settings.attempts taken ledger stage) :
    Standing bus timeout settings taken ledger stage := by
  cases stage with
  | ended outcome => exact working.elim
  | _ => exact working

theorem Working.pauses {delay : Number} (working : Working bus timeout limit taken ledger stage)
    (paused : stage.delay? settings = some delay) : Pauses bus timeout settings delay := by
  cases stage with
  | settling r => exact .inl (Option.some.inj paused).symm
  | waiting r attempt exchange =>
    obtain ⟨_, k, _, _, _, _, rfl⟩ := working
    exact .inr (.inr ⟨_, _, paused⟩)
  | retrying r attempt => exact .inr (.inl (Option.some.inj paused).symm)
  | _ => cases paused

theorem UnderWay.calls (under : UnderWay bus limit taken ledger cases r made failed) :
    (ledger.deeds.filterMap Deed.call?).reverse =
      List.replicate made r.call ++ (Case.allAsked cases).reverse := by
  rw [under.ledger]
  simp [Ledger.enter, Case.ledger, Case.trace_calls, List.filterMap_replicate]

theorem underWay_start (whole : bus.course limit [] taken = (cases, none)) (r : Request) :
    UnderWay bus limit (taken ++ [some r]) (Case.ledger cases) cases r 0 0 where
  course := ⟨taken, rfl, whole⟩
  ledger := (Ledger.enter_zero _ r).symm
  within := Nat.zero_le limit
  faults := by simp

theorem UnderWay.call (under : UnderWay bus limit taken ledger cases r made failed) :
    UnderWay bus limit taken (ledger.enter r 1 0) cases r (made + 1) failed :=
  { under with ledger := by rw [under.ledger, Ledger.enter_call] }

theorem UnderWay.fault (under : UnderWay bus limit taken ledger cases r made failed)
    (below : failed < limit)
    (fault : isFault (bus.attempt (Case.allAsked cases).reverse r failed) = true) :
    UnderWay bus limit taken (ledger.enter r 0 1) cases r made (failed + 1) where
  course := under.course
  ledger := by rw [under.ledger, Ledger.enter_fault]
  within := below
  faults i less := by
    rcases Nat.lt_succ_iff_lt_or_eq.mp less with less | rfl
    · exact under.faults i less
    · exact fault

theorem UnderWay.treated (under : UnderWay bus limit taken ledger cases r made failed) :
    bus.course limit [] taken =
      (cases ++ [bus.treat limit (Case.allAsked cases).reverse r],
        (bus.treat limit (Case.allAsked cases).reverse r).ending?) := by
  obtain ⟨before, rfl, whole⟩ := under.course
  exact Bus.course_snoc whole r

/-- Each item taken has its case, the request under way the last. -/
theorem UnderWay.items (under : UnderWay bus limit taken ledger cases r made failed) {c : Case}
    (last : c.request = r) : taken = (cases ++ [c]).map fun c => some c.request := by
  obtain ⟨before, rfl, whole⟩ := under.course
  rw [Bus.course_items whole]
  simp [last]

theorem ledger_failed (cases : List Case) (r : Request) (calls : Nat) (f : Failure) :
    Case.ledger (cases ++ [⟨r, calls, .failed f⟩]) =
      (Case.ledger cases).enter r calls (calls - 1) := by
  simp [Ledger.enter, Case.ledger, Case.trace, Case.tally, Case.deeds, Case.asked, Case.result?,
    Case.control?, Case.faults]

theorem ledger_silent (cases : List Case) (r : Request) (calls : Nat) :
    Case.ledger (cases ++ [⟨r, calls, .silent⟩]) =
      ((Case.ledger cases).enter r calls calls).add (.reported (.silent r.device)) := by
  simp [Ledger.enter, Ledger.add, Case.ledger, Case.trace, Case.tally, Case.deeds, Case.asked,
    Case.result?, Case.control?, Case.faults]

theorem ledger_answered (cases : List Case) (r : Request) (calls : Nat) (value : Binary64) :
    Case.ledger (cases ++ [⟨r, calls, .answered value⟩]) =
      (((Case.ledger cases).enter r calls (calls - 1)).add (.delivered r value)).add
        (.reported (.answered r.device)) := by
  simp [Ledger.enter, Ledger.add, Case.ledger, Case.trace, Case.tally, Case.deeds, Case.asked,
    Case.result?, Case.control?, Case.faults]

/-- A request that fails ends the agent where its last call leaves the ledger. -/
theorem UnderWay.broken {f : Failure}
    (under : UnderWay bus settings.attempts taken ledger cases r made (made - 1))
    (treated : bus.treat settings.attempts (Case.allAsked cases).reverse r = ⟨r, made, .failed f⟩) :
    Standing bus timeout settings taken ledger (.ended (.failed f)) := by
  obtain ⟨before, items, whole⟩ := under.course
  have closed := under.ledger.trans (ledger_failed cases r made f).symm
  exact .inl ⟨before, cases, _, items, whole, treated.symm, rfl, closed⟩

/-! ## One step -/

theorem fail_account {f : Failure} (same : a.settings = settings)
    (serves : line.link.Serves bus timeout)
    (split : fed = taken ++ line.requests.items)
    (stands : Standing bus timeout settings taken line.link.ledger (.ended (.failed f))) :
    Account bus timeout settings fed (a.fail line f).1 (a.fail line f).2.1 :=
  ⟨same, serves, taken, split, stands⟩

/-- A pause that has no length fails where the agent stands. -/
theorem pauseFor_account {delay : Number} (same : a.settings = settings)
    (serves : line.link.Serves bus timeout)
    (split : fed = taken ++ line.requests.items)
    (working : Working bus timeout settings.attempts taken line.link.ledger stage)
    (paused : stage.delay? settings = some delay) :
    Account bus timeout settings fed (a.pauseFor delay stage line).1
      (a.pauseFor delay stage line).2.1 := by
  unfold pauseFor
  split
  · exact ⟨same, serves, taken, split, working.standing⟩
  · rename_i endless
    exact fail_account same serves split (.inr ⟨rfl, stage, delay, working, paused, endless⟩)

theorem takeRequest_account (account : Account bus timeout settings fed a line)
    (idle : a.stage = .idle) :
    Account bus timeout settings fed (a.takeRequest line).1 (a.takeRequest line).2.1 := by
  obtain ⟨same, serves, taken, split, stands⟩ := account
  rw [idle] at stands
  obtain ⟨cases, whole, ledger⟩ := stands
  unfold takeRequest Channel.take?
  cases items : line.requests.items with
  | nil => exact ⟨same, serves, taken, split, idle ▸ ⟨cases, whole, ledger⟩⟩
  | cons item rest =>
    rw [items, List.append_cons] at split
    cases item with
    | none =>
      exact ⟨same, serves, _, split, taken, cases, rfl, whole, ledger⟩
    | some r =>
      have started := underWay_start whole r
      rw [← ledger] at started
      simp only
      split
      · exact ⟨same, serves, _, split, cases, 0, rfl, started⟩
      · rw [same]
        exact pauseFor_account same serves split ⟨cases, started⟩ rfl

/-- After the last attempt the request is given up; before it, the next call is made. -/
theorem ask_account {attempt : Nat} (account : Account bus timeout settings fed a line)
    (asking : a.stage = .asking r attempt) :
    Account bus timeout settings fed (a.ask line r attempt).1 (a.ask line r attempt).2.1 := by
  obtain ⟨rfl, serves, taken, split, stands⟩ := account
  rw [asking] at stands
  obtain ⟨cases, k, rfl, under⟩ := stands
  have treated := under.treated
  unfold ask
  split
  · -- all attempts failed
    have exhausted : k = a.settings.attempts := by
      have := under.within
      omega
    subst exhausted
    rw [Bus.treat_silent under.faults] at treated
    refine ⟨rfl, serves, taken, split, cases, _, treated, rfl, ?_⟩
    change line.link.ledger.add _ = _
    rw [under.ledger, ledger_silent]
  · rename_i left
    have below : k < a.settings.attempts := by omega
    cases refusal : r.refusal? with
    | some f =>
      -- only the first attempt can be refused
      have first : k = 0 := by
        rcases Nat.eq_zero_or_pos k with zero | positive
        · exact zero
        · have fault := under.faults 0 positive
          rw [Bus.refusal_decides refusal] at fault
          cases fault
      subst first
      rw [Link.beginQuery_refused refusal]
      exact fail_account rfl serves split (under.broken (Bus.treat_refused refusal below))
    | none =>
      obtain ⟨next, begun, serving, entered⟩ := Link.beginQuery_accepted serves refusal
      rw [begun, Link.earlier_eq, under.calls]
      have called := under.call
      rw [← entered] at called
      have waiting : Working bus timeout a.settings.attempts taken next.ledger
          (.waiting r (k + 1) (bus.exchange timeout
            (List.replicate k r.call ++ (Case.allAsked cases).reverse) r.call)) :=
        ⟨cases, k, rfl, below, refusal, called, rfl⟩
      simp only
      split
      · exact ⟨rfl, serving, taken, split, waiting⟩
      · rename_i endless
        obtain ⟨delay, waits, endless⟩ := Exchange.endless endless
        exact fail_account rfl serving split (.inr ⟨rfl, _, delay, waiting, waits, endless⟩)

/-- What an attempt gives decides whether the request is tried again. -/
theorem settle_account {attempt : Nat} {exchange : Exchange}
    (account : Account bus timeout settings fed a line)
    (waiting : a.stage = .waiting r attempt exchange) :
    Account bus timeout settings fed (a.settle line r attempt exchange).1
      (a.settle line r attempt exchange).2.1 := by
  obtain ⟨rfl, serves, taken, split, stands⟩ := account
  rw [waiting] at stands
  obtain ⟨cases, k, rfl, below, accepted, under, rfl⟩ := stands
  obtain ⟨next, settled, serving, kept⟩ := Link.settleQuery_eq serves
    (bus.exchange timeout (List.replicate k r.call ++ (Case.allAsked cases).reverse) r.call)
  rw [← kept] at under
  have treated := under.treated
  have attempted := Bus.exchange_settle bus timeout
    (List.replicate k r.call ++ (Case.allAsked cases).reverse) r.call
  rw [← Bus.attempt_accepted accepted] at attempted
  unfold settle
  rw [settled, attempted]
  -- a fault leads to the next attempt, anything else ends the treatment
  cases fault : isFault (bus.attempt (Case.allAsked cases).reverse r k) with
  | true =>
    obtain ⟨cause, outcome⟩ := isFault_iff.mp fault
    rw [outcome]
    have failed := under.fault below fault
    rw [← Link.fault_ledger next r (.retrying r.device (k + 1) a.settings.attempts)] at failed
    exact pauseFor_account rfl (serving.fault _) split ⟨cases, k, rfl, failed⟩ rfl
  | false =>
    have treated := Bus.treat_accepted accepted below under.faults fault
    cases outcome : bus.attempt (Case.allAsked cases).reverse r k with
    | ok bytes =>
      rw [outcome, Request.verdict] at treated
      simp only
      cases decoded : r.decoder.decode bytes with
      | ok value =>
        rw [decoded] at treated
        refine ⟨rfl, serving, taken, split, cases, _, rfl, ?_, ?_⟩
        · rw [treated]
          rfl
        · rw [treated]
          exact under
      | error f =>
        rw [decoded] at treated
        exact fail_account rfl serving split (under.broken treated)
    | error f =>
      rw [outcome] at treated fault
      cases f with
      | transport cause => cases fault
      | _ => exact fail_account rfl serving split (under.broken treated)

/-- A reading is put as soon as there is room for it. -/
theorem deliver_account {reading : Reading} (account : Account bus timeout settings fed a line)
    (delivering : a.stage = .delivering reading) :
    Account bus timeout settings fed (a.step line).1 (a.step line).2.1 := by
  obtain ⟨rfl, serves, taken, split, stands⟩ := account
  unfold step
  rw [delivering] at stands ⊢
  simp only
  split
  · exact ⟨rfl, serves, taken, split, delivering ▸ stands⟩
  · obtain ⟨cases, c, treated, result, under⟩ := stands
    have answered := Case.result_some result
    have whole := under.treated
    rw [← treated, answered] at whole
    refine ⟨rfl, serves.record rfl, taken, split, cases, _, whole, rfl, ?_⟩
    have ledger := under.ledger
    rw [answered] at ledger
    change (line.link.record (.delivered reading)).ledger.add _ = _
    rw [Link.record_ledger line.link rfl, ledger, ledger_answered]
    rfl

/-- A control is put as soon as there is room for it, and closes the request. -/
theorem report_account {control : Control} (account : Account bus timeout settings fed a line)
    (reporting : a.stage = .reporting control) :
    Account bus timeout settings fed (a.step line).1 (a.step line).2.1 := by
  obtain ⟨rfl, serves, taken, split, stands⟩ := account
  unfold step
  rw [reporting] at stands ⊢
  simp only
  split
  · exact ⟨rfl, serves, taken, split, reporting ▸ stands⟩
  · obtain ⟨cases, c, whole, _, ledger⟩ := stands
    refine ⟨rfl, serves.record rfl, taken, split, cases ++ [c], whole, ?_⟩
    rw [← ledger]
    exact Link.record_ledger line.link rfl

theorem step_account (account : Account bus timeout settings fed a line) :
    Account bus timeout settings fed (a.step line).1 (a.step line).2.1 := by
  cases stage : a.stage with
  | idle =>
    rw [step, stage]
    exact takeRequest_account account stage
  | settling r =>
    obtain ⟨same, serves, taken, split, stands⟩ := account
    rw [stage] at stands
    obtain ⟨cases, under⟩ := stands
    rw [step, stage]
    exact ⟨same, serves, taken, split, cases, 0, rfl, under⟩
  | asking r attempt =>
    rw [step, stage]
    exact ask_account account stage
  | waiting r attempt exchange =>
    rw [step, stage]
    exact settle_account account stage
  | retrying r attempt =>
    obtain ⟨same, serves, taken, split, stands⟩ := account
    rw [stage] at stands
    obtain ⟨cases, k, rfl, under⟩ := stands
    rw [step, stage]
    exact ⟨same, serves, taken, split, cases, k + 1, rfl, under⟩
  | delivering reading => exact deliver_account account stage
  | reporting control => exact report_account account stage
  | ended outcome =>
    rw [step, stage]
    exact account

theorem cancel_alive (line : Line) (alive : ∀ outcome, a.stage ≠ .ended outcome) :
    (a.cancel line).1 = { a with stage := .ended .cancelled } ∧
      (a.cancel line).2.link = line.link.note .agentCancelled ∧
      (a.cancel line).2.requests.items = line.requests.items := by
  unfold cancel
  cases stage : a.stage with
  | ended outcome => exact absurd stage (alive outcome)
  | _ => exact ⟨rfl, rfl, rfl⟩

/-- Cancelling an agent that has ended changes nothing. -/
theorem cancel_cases (a : Agent) (line : Line) :
    (∀ outcome, a.stage ≠ .ended outcome) ∨
      (∃ outcome, a.stage = .ended outcome) ∧ a.cancel line = (a, line) := by
  cases stage : a.stage with
  | ended outcome =>
    refine .inr ⟨⟨outcome, rfl⟩, ?_⟩
    rw [cancel, stage]
  | _ => exact .inl fun outcome same => by cases same

theorem Standing.working (stands : Standing bus timeout settings taken ledger stage)
    (alive : ∀ outcome, stage ≠ .ended outcome) :
    Working bus timeout settings.attempts taken ledger stage := by
  cases stage with
  | ended outcome => exact absurd rfl (alive outcome)
  | _ => exact stands

theorem cancel_account (account : Account bus timeout settings fed a line) :
    Account bus timeout settings fed (a.cancel line).1 (a.cancel line).2 := by
  rcases a.cancel_cases line with alive | ⟨_, unchanged⟩
  · obtain ⟨same, serves, taken, split, stands⟩ := account
    obtain ⟨agent, link, items⟩ := cancel_alive line alive
    have working := stands.working alive
    rw [← Link.note_ledger line.link .agentCancelled, ← link] at working
    rw [agent]
    exact ⟨same, link ▸ serves.record rfl, taken, items ▸ split, a.stage, working⟩
  · rw [unchanged]
    exact account

end MeterPolling.Agent
