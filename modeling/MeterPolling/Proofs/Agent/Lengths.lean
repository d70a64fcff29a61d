import MeterPolling.Proofs.Agent.Balance
import MeterPolling.Proofs.Agent.Moves
import MeterPolling.Proofs.Agent.Separation
import MeterPolling.Proofs.Agent.Timing
/-!
The pauses that an agent has made. As long as it has not failed, each of them had a length: before
its first call, after each fault, and for each reply. So wherever an agent stands on a course all of
whose pauses have lengths, it has not failed over one of them.
-/
namespace MeterPolling

/-- The reply to each of these calls, the latest first, comes after a pause that has a length. -/
def Bus.Replies (bus : Bus) (timeout : Number) : List Call → Prop
  | [] => True
  | call :: earlier =>
    (bus.exchange timeout earlier call).pause?.isSome ∧ bus.Replies timeout earlier

namespace Agent

structure TimelyAlong (bus : Bus) (timeout : Number) (settings : Settings) (cases : List Case) :
    Prop where
  settles : cases ≠ [] → (Pause.ofDelay? settings.settleDelay).isSome
  retries : ∀ c ∈ cases, 0 < c.faults → (Pause.ofDelay? settings.retryDelay).isSome
  replies : bus.Replies timeout (Case.allAsked cases).reverse

/-- The pauses that an agent has made, with what is on its link, had lengths. -/
structure TimelySoFar (bus : Bus) (timeout : Number) (settings : Settings) (a : Agent)
    (link : Link) : Prop where
  settles : a.previous.isSome ∨ a.stage.inHand = 1 ∨ link.deeds ≠ [] →
    (Pause.ofDelay? settings.settleDelay).isSome
  retries : 0 < link.counters.reconnects → (Pause.ofDelay? settings.retryDelay).isSome
  replies : bus.Replies timeout link.earlier

end Agent

variable {bus : Bus} {timeout : Number} {kept : Int → Bool} {settings : Agent.Settings}
  {cases : List Case} {fed feed taken : List (Option Request)} {a a' : Agent} {line line₀ : Line}
  {link next : Link} {ledger : Ledger} {result : Agent × Line × Pause} {stage : Agent.Stage}
  {delay : Number} {r : Request} {number made failed : Nat} {exchange : Exchange}

theorem Exchange.timely {x : Exchange} {delay : Number} (timely : x.pause?.isSome)
    (waits : x.wait = some delay) : (Pause.ofDelay? delay).isSome := by
  unfold pause? at timely
  rw [waits] at timely
  exact timely

namespace Bus

theorem Replies.suffix {calls later : List Call} (replies : bus.Replies timeout (later ++ calls)) :
    bus.Replies timeout calls := by
  induction later with
  | nil => exact replies
  | cons call later ih => exact ih replies.2

theorem Replies.own (separate : bus.Separate) {calls : List Call}
    (replies : bus.Replies timeout calls) : bus.Replies timeout (own kept calls) := by
  induction calls with
  | nil => exact replies
  | cons call calls ih =>
    obtain ⟨reply, earlier⟩ := replies
    cases keeps : kept call.device with
    | true =>
      rw [← separate.exchange keeps] at reply
      rw [Bus.own, List.filter_cons, if_pos keeps]
      exact ⟨reply, ih earlier⟩
    | false =>
      rw [Bus.own, List.filter_cons, if_neg (by simp [keeps])]
      exact ih earlier

end Bus

theorem Case.allAsked_filter (kept : Int → Bool) (cases : List Case) :
    allAsked (cases.filter (concerns kept)) = Bus.own kept (allAsked cases) := by
  rw [← trace_calls, trace_filter, concerns_calls, trace_calls]

theorem Case.trace_eq_nil {cases : List Case} (goes_on : ∀ c ∈ cases, c.ending? = none)
    (empty : trace cases = []) : cases = [] := by
  cases cases with
  | nil => rfl
  | cons c cases =>
    obtain ⟨control, found⟩ :=
      Option.isSome_iff_exists.mp (control_isSome (goes_on c List.mem_cons_self))
    have controls := trace_controls (c :: cases)
    rw [empty, List.filterMap_cons_some found] at controls
    cases controls

namespace Agent

/-- So they are on the part that concerns some devices, where each knows nothing of the others. -/
theorem TimelyAlong.filter (separate : bus.Separate)
    (along : TimelyAlong bus timeout settings cases) :
    TimelyAlong bus timeout settings (cases.filter (Case.concerns kept)) where
  settles some := along.settles fun none => some (by rw [none, List.filter_nil])
  retries c member := along.retries c (List.mem_of_mem_filter member)
  replies := by
    rw [Case.allAsked_filter, Bus.own, ← List.filter_reverse]
    exact along.replies.own separate

/-! ## Along a run -/

theorem TimelySoFar.congr (so_far : TimelySoFar bus timeout settings a link)
    (previous : a'.previous = a.previous) (hand : a'.stage.inHand = 1 → a.stage.inHand = 1)
    (ledger : next.ledger = link.ledger) : TimelySoFar bus timeout settings a' next := by
  have deeds : next.deeds = link.deeds := congrArg Ledger.deeds ledger
  have counters : next.counters = link.counters := congrArg Ledger.counters ledger
  obtain ⟨settles, retries, replies⟩ := so_far
  constructor
  · rw [previous, deeds]
    exact fun known => settles (known.imp_right (.imp_left hand))
  · rw [counters]
    exact retries
  · rw [Link.earlier_eq, ledger, ← Link.earlier_eq]
    exact replies

theorem TimelySoFar.still (so_far : TimelySoFar bus timeout settings a link)
    (settles : (Pause.ofDelay? settings.settleDelay).isSome)
    (calls : next.recorded Event.call? = link.recorded Event.call?)
    (counters : next.counters = link.counters) : TimelySoFar bus timeout settings a' next where
  settles _ := settles
  retries faults := so_far.retries (counters ▸ faults)
  replies := by
    rw [Link.earlier, calls]
    exact so_far.replies

/-- A call is on record with the exchange that it began. -/
theorem Account.waiting (account : Account bus timeout settings fed a line)
    (waiting : a.stage = .waiting r number exchange) :
    ∃ before, line.link.earlier = r.call :: before ∧
      exchange = bus.exchange timeout before r.call := by
  obtain ⟨_, _, taken, _, stands⟩ := account
  rw [waiting] at stands
  obtain ⟨cases, k, rfl, below, accepted, under, rfl⟩ := stands
  refine ⟨_, ?_, rfl⟩
  rw [Link.earlier_eq, under.calls]
  rfl

theorem TimelySoFar.asks (so_far : TimelySoFar bus timeout settings a link)
    (settles : (Pause.ofDelay? settings.settleDelay).isSome) (asks : link.Asks next r.call)
    (timely : exchange.pause?.isSome)
    (begun : ∃ before, next.earlier = r.call :: before ∧
      exchange = bus.exchange timeout before r.call) :
    TimelySoFar bus timeout settings a' next where
  settles _ := settles
  retries faults := by
    rw [asks.counters] at faults
    exact so_far.retries faults
  replies := by
    obtain ⟨before, earlier, rfl⟩ := begun
    have later : next.earlier = r.call :: link.earlier := by
      rw [Link.earlier, asks.calls, List.reverse_append]
      rfl
    obtain ⟨-, rfl⟩ := List.cons.inj (later.symm.trans earlier)
    rw [later]
    exact ⟨timely, so_far.replies⟩

theorem Pausing.timely (pausing : Pausing a delay stage line result)
    (unfailed : ∀ f, result.1.stage ≠ .ended (.failed f)) :
    (Pause.ofDelay? delay).isSome ∧ result.2.1 = line := by
  cases pausing with
  | pauses pause found => exact ⟨Option.isSome_of_eq_some found, rfl⟩
  | fails endless => exact absurd rfl (unfailed _)

theorem Taking.timelySoFar (same : a.settings = settings) (taking : Taking a line result)
    (so_far : TimelySoFar bus timeout settings a line.link)
    (unfailed : ∀ f, result.1.stage ≠ .ended (.failed f)) :
    TimelySoFar bus timeout settings result.1 result.2.1.link := by
  cases taking with
  | waits empty => exact so_far
  | told rest items =>
    refine so_far.congr rfl (fun busy => ?_) rfl
    cases busy
  | same r rest items known =>
    have settles := so_far.settles (.inl (by rw [known]; rfl))
    exact so_far.still settles rfl rfl
  | other r rest result items other pausing =>
    obtain ⟨settles, left⟩ := pausing.timely unfailed
    rw [same] at settles
    rw [left]
    exact so_far.still settles rfl rfl

theorem Settling.timelySoFar (same : a.settings = settings)
    (settling : Settling a line r number exchange result)
    (so_far : TimelySoFar bus timeout settings a line.link)
    (settles : (Pause.ofDelay? settings.settleDelay).isSome)
    (unfailed : ∀ f, result.1.stage ≠ .ended (.failed f)) :
    TimelySoFar bus timeout settings result.1 result.2.1.link := by
  cases settling with
  | delivers next bytes value calm works settled decoded =>
    exact so_far.still settles calm.calls calm.counters
  | retries next fault result reply warns pausing =>
    obtain ⟨retries, left⟩ := pausing.timely unfailed
    rw [same] at retries
    rw [left]
    refine ⟨fun _ => settles, fun _ => retries, ?_⟩
    change bus.Replies timeout next.earlier
    rw [Link.earlier, warns.calls]
    exact so_far.replies
  | fails next f sound calm works => exact absurd rfl (unfailed f)

theorem Moves.timelySoFar (same : a.settings = settings) (moves : Moves a line result)
    (so_far : TimelySoFar bus timeout settings a line.link)
    (account : Account bus timeout settings fed result.1 result.2.1)
    (unfailed : ∀ f, result.1.stage ≠ .ended (.failed f)) :
    TimelySoFar bus timeout settings result.1 result.2.1.link := by
  -- whoever has a request in hand has made its first pause
  have busy (stage : a.stage.inHand = 1) := so_far.settles (.inr (.inl stage))
  cases moves with
  | takes result stage taking => exact taking.timelySoFar same so_far unfailed
  | settled r stage => exact so_far.still (busy (by rw [stage]; rfl)) rfl rfl
  | asks r number result stage asking =>
    have settles := busy (by rw [stage]; rfl)
    cases asking with
    | exhausted exhausted => exact so_far.still settles rfl rfl
    | asks next exchange pause within accepted asks call found =>
      exact so_far.asks settles asks (Option.isSome_of_eq_some found) (account.waiting rfl)
    | _ => exact absurd rfl (unfailed _)
  | settles r number exchange result stage settling =>
    exact settling.timelySoFar same so_far (busy (by rw [stage]; rfl)) unfailed
  | retried r number stage => exact so_far.still (busy (by rw [stage]; rfl)) rfl rfl
  | delivers reading stage free =>
    exact so_far.still (busy (by rw [stage]; rfl)) (Link.recorded_none _ rfl) rfl
  | reports control stage free =>
    exact so_far.still (busy (by rw [stage]; rfl)) (Link.recorded_none _ rfl) rfl
  | holds reading stage full => exact so_far
  | withholds control stage full => exact so_far
  | stays outcome stage => exact so_far

/-- Whoever has failed stays so. -/
theorem step_failed {f : Failure} (failed : a.stage = .ended (.failed f)) :
    (a.step line).1.stage = .ended (.failed f) := by
  rw [step, failed]
  exact failed

theorem Run.timelySoFar {puts : List (Option Request)} (unused : line₀.link.Unused)
    (run : Run (make settings) line₀ puts a line)
    (unfailed : ∀ f, a.stage ≠ .ended (.failed f)) :
    TimelySoFar line₀.link.bus line₀.link.timeout settings a line.link := by
  induction run with
  | start =>
    have deeds : line₀.link.deeds = [] := congrArg Ledger.deeds unused.ledger
    have counters : line₀.link.counters = .fresh := congrArg Ledger.counters unused.ledger
    refine ⟨fun known => ?_, fun faults => ?_, ?_⟩
    · rcases known with known | busy | done
      · cases known
      · cases busy
      · exact absurd deeds done
    · rw [counters] at faults
      cases faults
    · rw [Link.earlier, ← Link.deeds_calls, deeds]
      trivial
  | step run ih =>
    have account := run.account unused
    have so_far := ih fun f failed => unfailed f (step_failed failed)
    exact (step_moves account.serves).timelySoFar account.same so_far
      (run.step.account unused) unfailed
  | @cancel _ a line run ih =>
    rcases a.cancel_cases line with alive | ⟨_, unchanged⟩
    · obtain ⟨agent, link, -⟩ := cancel_alive line alive
      rw [agent, link]
      refine (ih fun f => alive _).congr rfl (fun busy => ?_) (Link.note_ledger _ _)
      cases busy
    · rw [unchanged] at unfailed ⊢
      exact ih unfailed
  | put item _ ih => exact ih unfailed
  | aside _ aside ih => exact (ih unfailed).congr rfl id aside.ledger

/-! ## What it means for others -/

theorem TimelySoFar.along (so_far : TimelySoFar bus timeout settings a link)
    (ledger : link.ledger = Case.ledger cases) (goes_on : ∀ c ∈ cases, c.ending? = none) :
    TimelyAlong bus timeout settings cases := by
  have deeds : link.deeds = Case.trace cases := congrArg Ledger.deeds ledger
  constructor
  case settles =>
    intro some
    refine so_far.settles (.inr (.inr fun empty => some ?_))
    exact Case.trace_eq_nil goes_on (deeds ▸ empty)
  case retries =>
    intro c member faults
    have counters : link.counters = Case.tally cases := congrArg Ledger.counters ledger
    refine so_far.retries ?_
    rw [counters]
    exact List.sum_pos_iff_exists_pos_nat.mpr ⟨c.faults, List.mem_map_of_mem member, faults⟩
  case replies =>
    have replies := so_far.replies
    rwa [Link.earlier, ← Link.deeds_calls, deeds, Case.trace_calls] at replies

/-- The request under way is one of those that are treated. -/
theorem UnderWay.member
    (under : UnderWay bus settings.attempts taken ledger cases r made failed)
    (part : taken <+: feed) :
    bus.treat settings.attempts (Case.allAsked cases).reverse r ∈
      (bus.course settings.attempts [] feed).1 := by
  refine (Bus.course_mono part).subset ?_
  rw [under.treated]
  exact List.mem_append_right _ List.mem_cons_self

theorem Standing.earlier (stands : Standing bus timeout settings taken ledger stage)
    (part : taken <+: feed) :
    (ledger.deeds.filterMap Deed.call?).reverse <:+
      (Case.allAsked (bus.course settings.attempts [] feed).1).reverse := by
  rw [List.reverse_suffix, ← Case.trace_calls]
  exact (stands.trace.trans (Case.trace_mono (Bus.course_mono part))).filterMap _

/-- A pause that is too long is not on a course all of whose pauses have lengths. -/
theorem Working.timely
    (working : Working bus timeout settings.attempts taken ledger stage) (part : taken <+: feed)
    (along : TimelyAlong bus timeout settings (bus.course settings.attempts [] feed).1)
    (paused : stage.delay? settings = some delay) : (Pause.ofDelay? delay).isSome := by
  have earlier := working.standing.earlier part
  cases stage with
  | settling r =>
    obtain rfl := Option.some.inj paused
    obtain ⟨cases, under⟩ := working
    exact along.settles (List.ne_nil_of_mem (under.member part))
  | waiting r number exchange =>
    obtain ⟨cases, k, rfl, below, accepted, under, rfl⟩ := working
    rw [under.calls] at earlier
    obtain ⟨later, split⟩ := earlier
    have replies := along.replies
    rw [← split] at replies
    obtain ⟨reply, -⟩ := replies.suffix
    exact Exchange.timely reply paused
  | retrying r number =>
    obtain rfl := Option.some.inj paused
    obtain ⟨cases, k, rfl, under⟩ := working
    refine along.retries _ (under.member part) ?_
    exact Nat.lt_of_lt_of_le (Nat.succ_pos k) (Bus.faults_le_faults under.within under.faults)
  | _ => cases paused

/-- Nobody fails on a course that comes to the order to stop and whose pauses have lengths. -/
theorem Standing.unfailed {f : Failure}
    (stands : Standing bus timeout settings taken ledger stage) (part : taken <+: feed)
    (told : (bus.course settings.attempts [] feed).2 = some .told)
    (along : TimelyAlong bus timeout settings (bus.course settings.attempts [] feed).1) :
    stage ≠ .ended (.failed f) := by
  rintro rfl
  rcases stands with ⟨before, cases, c, rfl, whole, treated, verdict, rfl⟩ |
    ⟨rfl, stage, delay, working, paused, endless⟩
  · have failed : bus.course settings.attempts [] (before ++ [some c.request]) =
        (cases ++ [c], some (.failed f)) := by
      rw [Bus.course_snoc whole, ← treated, Case.ending?, verdict]
    obtain ⟨rest, rfl⟩ := part
    rw [Bus.course_ended (congrArg Prod.snd failed), failed] at told
    cases told
  · have timely := working.timely part along paused
    rw [endless] at timely
    cases timely

end Agent

end MeterPolling
