import Mathlib.Data.List.Chain
import MeterPolling.Proofs.Agent.Memory
import MeterPolling.Proofs.Agent.TimedBench
/-!
The bus is paced. A call begins after the one before it has ended: by the settle delay later when it
is for another device, by the retry delay later when the one before it failed, whatever requests
were taken and dropped between them. A device that was asked last does not have to settle, so that
after an answer the next request for it is asked at once, where nothing else is in the way.
-/
namespace MeterPolling

namespace Attempt

/-- At this time, enough has passed since an attempt for a call to a device. -/
def Lets (settings : Agent.Settings) (t : Attempt) (device : Int) (time : Binary64) : Prop :=
  ∃ line reply, t.ending = some (line, reply) ∧ Binary64.zero ≤ line.now ∧ line.now ≤ time ∧
    (t.call.device ≠ device → ∃ pause, settings.settleDelay.toBinary64? = some pause ∧
      line.now + pause ≤ time) ∧
    (isFault reply = true → ∃ pause, settings.retryDelay.toBinary64? = some pause ∧
      line.now + pause ≤ time)

/-- When the answer came, the next request was queued, for the same device, and what the answer
gives could be put without a wait. -/
structure Unhindered (t : Attempt) (line : Line) (r : Request) : Prop where
  answered : ∃ bytes, t.ending = some (line, .ok bytes)
  readings : line.readings.isFull = false
  controls : line.controls.isFull = false
  queued : line.requests.items.head? = some (some r)
  same : r.device = t.call.device

structure Spaced (settings : Agent.Settings) (t u : Attempt) : Prop where
  lets : t.Lets settings u.call.device u.began
  prompt : ∀ line r, t.Unhindered line r → u.request = r ∧ u.began = line.now

variable {settings : Agent.Settings} {t u : Attempt} {device : Int} {time time' : Binary64}
  {line last : Line} {r : Request} {reply : Except Failure (List UInt8)}

theorem Lets.mono (lets : t.Lets settings device time) (le : time ≤ time') :
    t.Lets settings device time' := by
  obtain ⟨line, reply, ended, start, after, settled, retried⟩ := lets
  refine ⟨line, reply, ended, start, Binary64.le_trans after le, ?_, ?_⟩
  · intro other
    obtain ⟨pause, found, rested⟩ := settled other
    exact ⟨pause, found, Binary64.le_trans rested le⟩
  · intro fault
    obtain ⟨pause, found, rested⟩ := retried fault
    exact ⟨pause, found, Binary64.le_trans rested le⟩

/-- A call to any device is let after the line has settled. -/
theorem Lets.settles {pause : Binary64} (lets : t.Lets settings t.call.device time)
    (found : settings.settleDelay.toBinary64? = some pause) (nonneg : Binary64.zero ≤ pause)
    (clock : Binary64.zero ≤ time) : t.Lets settings device (time + pause) := by
  have later := Binary64.le_add clock nonneg
  obtain ⟨line, reply, ended, start, after, _, retried⟩ := lets
  refine ⟨line, reply, ended, start, Binary64.le_trans after later, ?_, ?_⟩
  · intro _
    exact ⟨pause, found, Binary64.add_le_add_right start after nonneg⟩
  · intro fault
    obtain ⟨pause', found', rested⟩ := retried fault
    exact ⟨pause', found', Binary64.le_trans rested later⟩

/-- After an answer, a call to the same device is let at once. -/
theorem lets_answered (clock : Binary64.zero ≤ line.now) (sound : isFault reply = false) :
    (t.endWith line reply).Lets settings t.call.device line.now := by
  refine ⟨line, reply, rfl, clock, Binary64.le_refl clock.2.1, ?_, ?_⟩
  · exact fun other => absurd rfl other
  · intro fault
    rw [sound] at fault
    cases fault

/-- After a fault, a call to the same device is let after the pause for it. -/
theorem lets_retried {pause : Binary64} (clock : Binary64.zero ≤ line.now)
    (found : settings.retryDelay.toBinary64? = some pause) (nonneg : Binary64.zero ≤ pause) :
    (t.endWith line reply).Lets settings t.call.device (line.now + pause) := by
  refine ⟨line, reply, rfl, clock, Binary64.le_add clock nonneg, ?_, ?_⟩
  · exact fun other => absurd rfl other
  · intro _
    exact ⟨pause, found, Binary64.le_refl (Binary64.add_nonneg clock nonneg).2.1⟩

theorem Spaced.ends (spaced : Spaced settings t u) : Spaced settings t (u.endWith line reply) :=
  ⟨spaced.lets, spaced.prompt⟩

theorem Unhindered.unfailed (unhindered : t.Unhindered last r) : t.failed = false := by
  obtain ⟨bytes, ended⟩ := unhindered.answered
  rw [failed, ended]
  rfl

end Attempt

namespace Agent

variable {settings : Settings} {t u : Attempt} {now time : Binary64} {turn : Turn}
  {line last next : Line} {r : Request} {previous : Option Int} {log : List Attempt}

def Stage.Keeps (settings : Settings) (t : Attempt) (now : Binary64) (turn : Turn)
    (previous : Option Int) : Stage → Prop
  | .idle | .delivering _ | .reporting _ =>
    previous = some t.call.device ∧ t.Lets settings t.call.device now
  | .settling r => t.Lets settings r.device (turn.next now)
  | .asking r number => (number = 1 ∨ t.failed = true ∧ t.call.device = r.device) ∧
      t.Lets settings r.device now
  | .retrying r _ => t.failed = true ∧ t.call.device = r.device ∧
      t.Lets settings r.device (turn.next now)
  | .waiting r _ _ => t.call.device = r.device
  | .ended _ => True

/-- What an agent that is in no one's way still has before it. -/
def Stage.Heads (line : Line) (r : Request) : Stage → Prop
  | .delivering _ => line.readings.isFull = false ∧ line.controls.isFull = false ∧
      line.requests.items.head? = some (some r)
  | .reporting _ => line.controls.isFull = false ∧ line.requests.items.head? = some (some r)
  | .idle => line.requests.items.head? = some (some r)
  | .asking asked _ => asked = r
  | .settling _ | .waiting .. | .retrying .. | .ended _ => False

/-- After an answer with nothing in the way, the agent does not pause before the next call. -/
def Hurries (t : Attempt) (stage : Stage) (line : Line) (turn : Turn) : Prop :=
  ∀ last r, t.Unhindered last r → (∃ outcome, stage = .ended outcome) ∨
    turn = .running ∧ line.now = last.now ∧ stage.Heads line r

structure Pacing (settings : Settings) (log : List Attempt) (a : Agent) (line : Line)
    (turn : Turn) : Prop where
  chain : log.IsChain (Attempt.Spaced settings)
  latest : ∀ t, log.getLast? = some t → 0 < settings.attempts ∧
    a.stage.Keeps settings t line.now turn a.previous ∧ Hurries t a.stage line turn

variable {a : Agent} {line' : Line} {turn' : Turn} {now' : Binary64} {stage : Stage} {number : Nat}
  {result : Agent × Line × Pause}

/-! ## While the agent is paused -/

theorem Stage.Keeps.later (keeps : stage.Keeps settings t now turn previous) (le : now ≤ now')
    (comes : ∀ device, t.Lets settings device (turn.next now) →
      t.Lets settings device (turn'.next now')) :
    stage.Keeps settings t now' turn' previous := by
  cases stage with
  | idle => exact ⟨keeps.1, keeps.2.mono le⟩
  | delivering reading => exact ⟨keeps.1, keeps.2.mono le⟩
  | reporting control => exact ⟨keeps.1, keeps.2.mono le⟩
  | settling r => exact comes _ keeps
  | asking r number => exact ⟨keeps.1, keeps.2.mono le⟩
  | retrying r number => exact ⟨keeps.1, keeps.2.1, comes _ keeps.2.2⟩
  | waiting r number exchange => exact keeps
  | ended outcome => trivial

theorem Hurries.paused (hurries : Hurries t stage line turn) (paused : turn ≠ .running) :
    Hurries t stage line' turn' := by
  intro last r unhindered
  rcases hurries last r unhindered with ended | ⟨running, _⟩
  · exact .inl ended
  · exact absurd running paused

theorem Pacing.resume (pacing : Pacing settings log a line turn) (due : turn.Due line.now)
    (clock : line.now ≤ line.now) : Pacing settings log a line .running := by
  refine ⟨pacing.chain, fun t last => ?_⟩
  obtain ⟨tried, keeps, hurries⟩ := pacing.latest t last
  refine ⟨tried, keeps.later clock fun device lets => lets.mono (due.next_le clock), ?_⟩
  exact hurries.paused due.paused

theorem Pacing.aside (pacing : Pacing settings log a line turn) (paused : turn ≠ .running)
    (later : line.now ≤ line'.now) : Pacing settings log a line' turn := by
  refine ⟨pacing.chain, fun t last => ?_⟩
  obtain ⟨tried, keeps, hurries⟩ := pacing.latest t last
  refine ⟨tried, keeps.later later fun device lets => ?_, hurries.paused paused⟩
  cases turn with
  | asleep deadline => exact lets
  | _ => exact lets.mono later

theorem Pacing.ends {outcome : Outcome} (chain : log.IsChain (Attempt.Spaced settings))
    (tried : ∀ t, log.getLast? = some t → 0 < settings.attempts)
    (ended : a.stage = .ended outcome) :
    Pacing settings log a line turn := by
  refine ⟨chain, fun t last => ⟨tried t last, ?_, fun _ _ _ => .inl ⟨outcome, ended⟩⟩⟩
  rw [ended]
  trivial

/-! ## Steps -/

structure Paceable (settings : Settings) (a : Agent) (line : Line) : Prop where
  same : a.settings = settings
  settles : Number.less 0 settings.settleDelay = true
  retries : Number.less 0 settings.retryDelay = true
  clock : Binary64.zero ≤ line.now

theorem Taking.pacing (paceable : Paceable settings a line) (taking : Taking a line result)
    (idle : a.stage = .idle) (pacing : Pacing settings log a line .running) :
    Pacing settings log result.1 result.2.1 (.after result.2.1.now result.2.2) := by
  have tried (t : Attempt) (latest : log.getLast? = some t) : 0 < settings.attempts :=
    (pacing.latest t latest).1
  have heads {t last} (latest : log.getLast? = some t) {r : Request}
      (unhindered : t.Unhindered last r) :
      line.now = last.now ∧ line.requests.items.head? = some (some r) := by
    rcases (pacing.latest t latest).2.2 last r unhindered with ⟨outcome, ended⟩ | ⟨_, now, ahead⟩
    · cases idle.symm.trans ended
    · rw [idle] at ahead
      exact ⟨now, ahead⟩
  cases taking with
  | waits none =>
    refine ⟨pacing.chain, fun t latest => ⟨tried t latest, ?_, ?_⟩⟩
    · have keeps := (pacing.latest t latest).2.1
      rw [idle] at keeps
      rw [idle]
      exact keeps
    · intro last r unhindered
      obtain ⟨_, head⟩ := heads latest unhindered
      rw [none] at head
      cases head
  | told rest items => exact .ends pacing.chain tried rfl
  | same r rest items same =>
    refine ⟨pacing.chain, fun t latest => ⟨tried t latest, ?_, ?_⟩⟩
    · have keeps := (pacing.latest t latest).2.1
      rw [idle] at keeps
      have device : t.call.device = r.device := Option.some.inj (keeps.1.symm.trans same)
      exact ⟨.inl rfl, device ▸ keeps.2⟩
    · intro last r' unhindered
      obtain ⟨now, head⟩ := heads latest unhindered
      rw [items] at head
      cases head
      exact .inr ⟨rfl, now, rfl⟩
  | other r rest result items other pausing =>
    cases pausing with
    | pauses pause length =>
      obtain ⟨delay, found, rfl, nonneg⟩ :=
        Pause.positive_sleeps paceable.settles (paceable.same ▸ length)
      refine ⟨pacing.chain, fun t latest => ⟨tried t latest, ?_, ?_⟩⟩
      · have keeps := (pacing.latest t latest).2.1
        rw [idle] at keeps
        exact keeps.2.settles found nonneg paceable.clock
      · intro last r' unhindered
        obtain ⟨_, head⟩ := heads latest unhindered
        rw [items] at head
        cases head
        have keeps := (pacing.latest t latest).2.1
        rw [idle] at keeps
        exact absurd (keeps.1.trans (congrArg some unhindered.same.symm)) other
    | fails endless => exact .ends pacing.chain tried rfl

theorem Asking.pacing (paceable : Paceable settings a line)
    (asking : Asking a line r number result) (stage : a.stage = .asking r number)
    (positive : 0 < number) (previous : a.previous = some r.device)
    (pacing : Pacing settings log a line .running) :
    Pacing settings (a.observe line result.2.1 log) result.1 result.2.1
      (.after result.2.1.now result.2.2) := by
  have tried (t : Attempt) (latest : log.getLast? = some t) : 0 < settings.attempts :=
    (pacing.latest t latest).1
  have chain {next : Link} (asks : line.link.Asks next r.call) :
      (log ++ [(⟨r, number, r.call, line.now, none⟩ : Attempt)]).IsChain
        (Attempt.Spaced settings) := by
    refine pacing.chain.append (List.isChain_singleton _) fun t latest u new => ?_
    obtain rfl := Option.some.inj new
    obtain ⟨_, keeps, hurries⟩ := pacing.latest t latest
    rw [stage] at keeps
    refine ⟨keeps.2, fun last r' unhindered => ?_⟩
    rcases hurries last r' unhindered with ⟨outcome, ended⟩ | ⟨_, now, ahead⟩
    · cases stage.symm.trans ended
    · rw [stage] at ahead
      exact ⟨ahead, now⟩
  cases asking with
  | exhausted spent =>
    have unseen : a.observe line line log = log := observe_unasked stage rfl
    rw [unseen]
    refine ⟨pacing.chain, fun t latest => ⟨tried t latest, ?_⟩⟩
    have keeps := (pacing.latest t latest).2.1
    rw [stage] at keeps
    -- a request that was given up has been tried
    have again : number ≠ 1 := by
      have some := tried t latest
      rw [paceable.same] at spent
      omega
    obtain ⟨failed, device⟩ := keeps.1.resolve_left again
    refine ⟨⟨previous.trans (congrArg some device.symm), device ▸ keeps.2⟩, ?_⟩
    intro last r' unhindered
    cases unhindered.unfailed.symm.trans failed
  | refused f within refused =>
    have unseen : a.observe line (a.fail line f).2.1 log = log := observe_unasked stage rfl
    rw [unseen]
    exact .ends pacing.chain tried rfl
  | asks next exchange pause within accepted asks call length =>
    rw [observe_asks stage asks rfl]
    refine ⟨chain asks, fun t latest => ?_⟩
    rw [List.getLast?_concat] at latest
    obtain rfl := Option.some.inj latest
    rw [paceable.same] at within
    refine ⟨Nat.lt_of_lt_of_le positive within, rfl, ?_⟩
    rintro last r' ⟨⟨bytes, ended⟩, _⟩
    cases ended
  | overlong next within accepted asks =>
    rw [observe_asks stage asks rfl]
    rw [paceable.same] at within
    exact .ends (chain asks) (fun _ _ => Nat.lt_of_lt_of_le positive within) rfl

theorem Settling.pacing {exchange : Exchange} (paceable : Paceable settings a line)
    (settling : Settling a line r number exchange result)
    (stage : a.stage = .waiting r number exchange) (leaves : a.stage.Leaves log)
    (previous : a.previous = some r.device) (pacing : Pacing settings log a line .running) :
    Pacing settings (a.observe line result.2.1 log) result.1 result.2.1
      (.after result.2.1.now result.2.2) := by
  rw [stage] at leaves
  obtain ⟨ended, t, rfl, _, _, _, _, in_flight⟩ := leaves
  obtain ⟨tried, device, _⟩ := pacing.latest t List.getLast?_concat
  rw [stage] at device
  rw [observe_ends stage]
  have chain : (ended ++ [t.endWith line exchange.settle]).IsChain (Attempt.Spaced settings) := by
    obtain ⟨before, _, joint⟩ := List.isChain_append.mp pacing.chain
    refine before.append (List.isChain_singleton _) fun u latest t' new => ?_
    obtain rfl := Option.some.inj new
    exact (joint u latest t rfl).ends
  cases settling with
  | delivers next bytes value calm works reply decoded =>
    refine ⟨chain, fun t' latest => ⟨tried, ?_⟩⟩
    rw [List.getLast?_concat] at latest
    obtain rfl := Option.some.inj latest
    have now : (line.withLink next).now = line.now := works.now
    refine ⟨⟨previous.trans (congrArg some device.symm), ?_⟩, ?_⟩
    · rw [now]
      exact Attempt.lets_answered paceable.clock (by rw [reply]; rfl)
    · rintro last r' ⟨⟨bytes', answered⟩, readings, controls, queued, same⟩
      obtain rfl : line = last := congrArg Prod.fst (Option.some.inj answered)
      exact .inr ⟨rfl, now, readings, controls, queued⟩
  | retries next fault result reply warns pausing =>
    cases pausing with
    | pauses pause length =>
      obtain ⟨delay, found, rfl, nonneg⟩ :=
        Pause.positive_sleeps paceable.retries (paceable.same ▸ length)
      refine ⟨chain, fun t' latest => ⟨tried, ?_⟩⟩
      rw [List.getLast?_concat] at latest
      obtain rfl := Option.some.inj latest
      have now : (line.withLink next).now = line.now := warns.works.now
      have failed : (t.endWith line exchange.settle).failed = true := by
        rw [Attempt.endWith_failed, reply]
        rfl
      refine ⟨⟨failed, device, ?_⟩, ?_⟩
      · rw [← device]
        change (t.endWith line exchange.settle).Lets settings t.call.device
          ((line.withLink next).now + delay)
        rw [now]
        exact Attempt.lets_retried paceable.clock found nonneg
      · intro last r' unhindered
        cases unhindered.unfailed.symm.trans failed
    | fails endless => exact .ends chain (fun _ _ => tried) rfl
  | fails next f sound calm works => exact .ends chain (fun _ _ => tried) rfl

/-- A step that is not seen in the log, with the clock as it was. -/
theorem Pacing.steps (pacing : Pacing settings log a line turn) {a' : Agent}
    (goes : ∀ t, log.getLast? = some t → a.stage.Keeps settings t line.now turn a.previous →
      Hurries t a.stage line turn →
      a'.stage.Keeps settings t line'.now turn' a'.previous ∧ Hurries t a'.stage line' turn') :
    Pacing settings log a' line' turn' := by
  refine ⟨pacing.chain, fun t latest => ?_⟩
  obtain ⟨tried, keeps, hurries⟩ := pacing.latest t latest
  exact ⟨tried, goes t latest keeps hurries⟩

theorem Moves.pacing {fed : List (Option Request)} (paceable : Paceable settings a line)
    (moves : Moves a line result) (remembers : Remembers fed a line) (leaves : a.stage.Leaves log)
    (pacing : Pacing settings log a line .running) :
    Pacing settings (a.observe line result.2.1 log) result.1 result.2.1
      (.after result.2.1.now result.2.2) := by
  obtain ⟨taken, _, recalls⟩ := remembers
  cases moves with
  | takes result stage taking =>
    rw [observe_still (by rw [stage]; rfl)]
    exact taking.pacing paceable stage pacing
  | settled r stage =>
    rw [observe_still (by rw [stage]; rfl)]
    refine pacing.steps fun t latest keeps hurries => ?_
    rw [stage] at keeps hurries
    refine ⟨⟨.inl rfl, keeps⟩, fun last r' unhindered => ?_⟩
    rcases hurries last r' unhindered with ⟨_, ended⟩ | ⟨_, _, ahead⟩
    · cases ended
    · cases ahead
  | asks r number result stage asking =>
    rw [stage] at recalls
    obtain ⟨positive, _, _, previous⟩ := recalls
    exact asking.pacing paceable stage positive previous pacing
  | settles r number exchange result stage settling =>
    rw [stage] at recalls
    obtain ⟨_, _, previous⟩ := recalls
    exact settling.pacing paceable stage leaves previous pacing
  | retried r number stage =>
    rw [observe_still (by rw [stage]; rfl)]
    refine pacing.steps fun t latest keeps hurries => ?_
    rw [stage] at keeps hurries
    refine ⟨⟨.inr ⟨keeps.1, keeps.2.1⟩, keeps.2.2⟩, fun last r' unhindered => ?_⟩
    cases unhindered.unfailed.symm.trans keeps.1
  | holds reading stage full =>
    rw [observe_still (by rw [stage]; rfl)]
    refine pacing.steps fun t latest keeps hurries => ?_
    rw [stage] at keeps hurries ⊢
    refine ⟨keeps, fun last r' unhindered => ?_⟩
    rcases hurries last r' unhindered with ⟨_, ended⟩ | ⟨_, _, room, _⟩
    · cases ended
    · cases full.symm.trans room
  | delivers reading stage room =>
    rw [observe_still (by rw [stage]; rfl)]
    refine pacing.steps fun t latest keeps hurries => ?_
    rw [stage] at keeps hurries
    refine ⟨keeps, fun last r' unhindered => ?_⟩
    rcases hurries last r' unhindered with ⟨_, ended⟩ | ⟨_, now, _, free, head⟩
    · cases ended
    · exact .inr ⟨rfl, now, free, head⟩
  | withholds control stage full =>
    rw [observe_still (by rw [stage]; rfl)]
    refine pacing.steps fun t latest keeps hurries => ?_
    rw [stage] at keeps hurries ⊢
    refine ⟨keeps, fun last r' unhindered => ?_⟩
    rcases hurries last r' unhindered with ⟨_, ended⟩ | ⟨_, _, room, _⟩
    · cases ended
    · cases full.symm.trans room
  | reports control stage room =>
    rw [observe_still (by rw [stage]; rfl)]
    refine pacing.steps fun t latest keeps hurries => ?_
    rw [stage] at keeps hurries
    refine ⟨keeps, fun last r' unhindered => ?_⟩
    rcases hurries last r' unhindered with ⟨_, ended⟩ | ⟨_, now, _, head⟩
    · cases ended
    · exact .inr ⟨rfl, now, head⟩
  | stays outcome stage =>
    rw [observe_still (by rw [stage]; rfl)]
    exact .ends pacing.chain (fun t latest => (pacing.latest t latest).1) stage

/-! ## Runs -/

variable {line₀ : Line} {puts : List (Option Request)}

theorem Timed.pacing (fresh : Unwarned line₀.link)
    (settles : Number.less 0 settings.settleDelay = true)
    (retries : Number.less 0 settings.retryDelay = true) (start : Binary64.zero ≤ line₀.now)
    (timed : Timed (make settings) line₀ puts log a line turn) :
    Pacing settings log a line turn := by
  induction timed with
  | start => exact ⟨.nil, fun t latest => by cases latest⟩
  | resume timed due ih => exact ih.resume due (Binary64.le_refl (timed.clock start).2.1)
  | step timed ih =>
    obtain ⟨outputs, observed⟩ := timed.observed
    obtain ⟨same, serves⟩ := observed.serves fresh.toUnused
    exact (step_moves serves).pacing ⟨same, settles, retries, timed.clock start⟩
      (observed.remembers fresh.toUnused) (observed.logged fresh).leaves ih
  | @cancel _ _ a line _ _ paused ih =>
    have tried (t : Attempt) (latest : _ = some t) := (ih.latest t latest).1
    rcases a.cancel_cases line with alive | ⟨⟨outcome, ended⟩, same⟩
    · obtain ⟨agent, _⟩ := cancel_alive line alive
      exact .ends ih.chain tried (by rw [agent])
    · rw [same]
      exact .ends ih.chain tried ended
  | put item timed paused ih => exact ih.aside paused (Binary64.le_refl (timed.clock start).2.1)
  | aside _ paused _ later ih => exact ih.aside paused later

/-- The log holds all calls, each two that follow one another are spaced, and a request is let
settle only when another device was asked before it. -/
structure Paced (settings : Settings) (fed : List (Option Request)) (log : List Attempt) (a : Agent)
    (line : Line) : Prop where
  calls : line.link.recorded Event.call? = log.map Attempt.call
  spaced : log.IsChain (Attempt.Spaced settings)
  settles : ∀ r, a.stage = .settling r → ∃ taken before,
    fed = taken ++ line.requests.items ∧ taken.reduceOption = before ++ [r] ∧
      ∀ q, before.getLast? = some q → q.device ≠ r.device

/-- Where both delays are positive, the calls are paced at every moment of a run. -/
theorem Timed.calls_are_paced (fresh : Unwarned line₀.link)
    (settles : Number.less 0 settings.settleDelay = true)
    (retries : Number.less 0 settings.retryDelay = true) (start : Binary64.zero ≤ line₀.now)
    (timed : Timed (make settings) line₀ puts log a line turn) :
    Paced settings (line₀.requests.items ++ puts) log a line := by
  obtain ⟨outputs, observed⟩ := timed.observed
  constructor
  case calls => exact (observed.logged fresh).calls
  case spaced => exact (timed.pacing fresh settles retries start).chain
  case settles =>
    intro r stage
    obtain ⟨taken, split, recalls⟩ := observed.remembers fresh.toUnused
    rw [stage] at recalls
    obtain ⟨before, requests, previous, other⟩ := recalls
    refine ⟨taken, before, split, requests, fun q last same => other ?_⟩
    rw [previous, lastDevice, last, Option.map_some, same]

/-- Two hesitant meters, each asked twice, with a bench around the agent. -/
theorem Timed.hesitant_meters_are_paced :
    let link := (hesitantLine none 0).link
    let ask (device : Int) : Bench.Feed := .put (some ⟨device, 4, 0, 2, .raw32, some "VolLocPhsA"⟩)
    let setup : Bench.Setup := ⟨.default, [ask 1, ask 2, .put none], 0, 0, none, none⟩
    let line := Line.make link 0 0 0
    let last := (Loop.iterate (Bench.tasks setup) none 60
      (.start (Bench.initial setup link) [.feeder, .agent])).shared
    Unwarned line.link ∧ Number.less 0 setup.settings.settleDelay = true ∧
      Number.less 0 setup.settings.retryDelay = true ∧ Binary64.zero ≤ line.now ∧
      (last.agent.stage = .ended .told ∧
        (last.line.link.recorded Event.call?).map Call.device = [1, 1, 2, 2]) ∧
      ∃ puts log turn, Timed (make setup.settings) line puts log last.agent last.line turn ∧
        Paced setup.settings (line.requests.items ++ puts) log last.agent last.line := by
  intro link ask setup line last
  have fresh : Unwarned line.link := hesitantLine_unwarned none 0
  have settles : Number.less 0 setup.settings.settleDelay = true := by decide +kernel
  have retries : Number.less 0 setup.settings.retryDelay = true := by decide +kernel
  have start : Binary64.zero ≤ line.now := ⟨rfl, rfl, rfl⟩
  have ended : last.agent.stage = .ended .told ∧
      (last.line.link.recorded Event.call?).map Call.device = [1, 1, 2, 2] := by
    decide +kernel
  have once : [Bench.Task.feeder, .agent].Nodup := by decide
  have unused : link.Unused := fresh.toUnused
  have clock : Binary64.zero ≤ link.now := start
  obtain ⟨turn, reaches⟩ := Bench.iterate_reaches setup unused clock once none 60
  obtain ⟨puts, log, timed, _⟩ := reaches
  exact ⟨fresh, settles, retries, start, ended, puts, log, turn, timed,
    Timed.calls_are_paced fresh settles retries start timed⟩

end Agent

end MeterPolling
