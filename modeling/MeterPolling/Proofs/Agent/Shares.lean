import Mathlib.Data.List.ReduceOption
import MeterPolling.Proofs.Agent.Observed
/-!
The log of an agent, shared out among the requests that it took. The attempts at a request follow
one another, with those at other requests before or after them; all but the last have failed, and
what is put for the request comes of the last. An invariant says of each stage what the request
under way has had so far, and that all requests before it have had all they can have.
-/
namespace MeterPolling

structure Share where
  request : Request
  /-- The attempts that ended in a fault of the transport. -/
  failures : List Attempt
  /-- The attempt after them, while its call is in flight or once it has ended in another way. -/
  last : Option Attempt
  reading : Option Reading
  control : Option Control

/-- Attempts at one request, of which each has its number and no more are made than is allowed. A
request that is refused has none. -/
structure Attempt.Numbered (limit : Nat) (r : Request) (attempts : List Attempt) : Prop where
  own : ∀ t ∈ attempts, t.request = r ∧ t.call = r.call
  numbers : attempts.map Attempt.number = List.range' 1 attempts.length
  within : attempts.length ≤ limit
  accepted : attempts ≠ [] → r.refusal? = none

/-- The attempt ended in the reply that a reading was made of, at the time that the reading has. -/
def Attempt.Gives (t : Attempt) (reading : Reading) : Prop :=
  ∃ line bytes, t.ending = some (line, .ok bytes) ∧ reading.readAt = line.now ∧
    reading.request.decoder.decode bytes = .ok reading.value

namespace Share

def opened (r : Request) : Share := ⟨r, [], none, none, none⟩

def attempts (s : Share) : List Attempt := s.failures ++ s.last.toList

/-- A request has had all it can have: its reading and control, or all its attempts and a control.
-/
inductive Complete (limit : Nat) : Share → Prop where
  | answered (failures : List Attempt) (t : Attempt) (reading : Reading) : t.Gives reading →
      Complete limit ⟨reading.request, failures, some t, some reading,
        some (.answered reading.request.device)⟩
  | silent (r : Request) (failures : List Attempt) : failures.length = limit →
      Complete limit ⟨r, failures, none, none, some (.silent r.device)⟩

structure Sound (limit : Nat) (s : Share) : Prop where
  numbered : Attempt.Numbered limit s.request s.attempts
  failures : ∀ t ∈ s.failures, t.failed = true
  last : ∀ t ∈ s.last, t.failed = false
  read : s.reading.isSome → s.last.isSome
  closed : s.control.isSome → s.Complete limit

/-- What the request under way has had at a stage. -/
def At (limit : Nat) (s : Share) : Agent.Stage → Prop
  | .settling r => s = .opened r
  | .asking r number => ∃ failures, s = ⟨r, failures, none, none, none⟩ ∧
      failures.length + 1 = number
  | .waiting r number _ => ∃ failures t, s = ⟨r, failures, some t, none, none⟩ ∧
      failures.length + 1 = number ∧ t.ending = none
  | .retrying r number => ∃ failures, s = ⟨r, failures, none, none, none⟩ ∧
      failures.length = number
  | .delivering reading => ∃ failures t, s = ⟨reading.request, failures, some t, none, none⟩ ∧
      t.Gives reading
  | .reporting (.answered device) => ∃ failures t reading,
      s = ⟨reading.request, failures, some t, some reading, none⟩ ∧ t.Gives reading ∧
        device = reading.request.device
  | .reporting (.silent device) => ∃ r failures, s = ⟨r, failures, none, none, none⟩ ∧
      failures.length = limit ∧ device = r.device
  | .idle | .ended _ => True

end Share

/-- Which shares are complete at a stage, and what the last one has had. -/
def Agent.Stage.Holds (limit : Nat) (shares : List Share) : Agent.Stage → Prop
  | .idle | .ended .told => ∀ s ∈ shares, s.Complete limit
  | .ended _ => ∀ s ∈ shares.dropLast, s.Complete limit
  | stage => ∃ done s, shares = done ++ [s] ∧ (∀ d ∈ done, d.Complete limit) ∧ s.At limit stage

/-- Shares are those of the requests taken, in their order, and together they make up the log and
what was put. -/
structure Share.Tells (taken : List (Option Request)) (log : List Attempt) (link : Link)
    (shares : List Share) : Prop where
  requests : shares.map Share.request = taken.reduceOption
  attempts : shares.flatMap Share.attempts = log
  readings : shares.filterMap Share.reading = link.recorded Event.reading?
  controls : shares.filterMap Share.control = link.recorded Event.control?

structure Shared (limit : Nat) (taken : List (Option Request)) (log : List Attempt)
    (stage : Agent.Stage) (link : Link) (shares : List Share) : Prop where
  tells : Share.Tells taken log link shares
  sound : ∀ s ∈ shares, s.Sound limit
  holds : stage.Holds limit shares

variable {limit number : Nat} {r : Request} {ended failures log : List Attempt} {t : Attempt}
  {line : Line} {link link' : Link} {reply : Except Failure (List UInt8)} {s s' : Share}
  {done shares : List Share} {taken : List (Option Request)} {reading : Reading}
  {stage : Agent.Stage}

/-! ## One share -/

namespace Attempt

theorem Numbered.asks (numbered : Numbered limit r ended) (room : ended.length < limit)
    (accepted : r.refusal? = none) :
    Numbered limit r (ended ++ [⟨r, ended.length + 1, r.call, line.now, none⟩]) := by
  constructor
  case own =>
    intro t member
    rcases List.mem_append.mp member with before | last
    · exact numbered.own t before
    · rw [List.mem_singleton.mp last]
      exact ⟨rfl, rfl⟩
  case numbers =>
    rw [List.map_append, numbered.numbers, List.length_append, List.length_singleton,
      List.range'_1_concat, Nat.add_comm 1]
    rfl
  case within =>
    rw [List.length_append]
    exact room
  case accepted => exact fun _ => accepted

/-- How the last attempt ends is no matter of its number. -/
theorem Numbered.ends (numbered : Numbered limit r (ended ++ [t])) :
    Numbered limit r (ended ++ [t.endWith line reply]) := by
  obtain ⟨own, numbers, within, accepted⟩ := numbered
  have last := own t (List.mem_append_right ended List.mem_cons_self)
  constructor
  case own =>
    intro u member
    rcases List.mem_append.mp member with before | same
    · exact own u (List.mem_append_left _ before)
    · rw [List.mem_singleton.mp same]
      exact last
  case numbers =>
    rw [List.map_append, List.length_append] at numbers ⊢
    exact numbers
  case within =>
    rw [List.length_append] at within ⊢
    exact within
  case accepted => exact fun _ => accepted (by simp)

end Attempt

namespace Share

theorem attempts_none (r : Request) (failures : List Attempt) (reading : Option Reading)
    (control : Option Control) :
    attempts ⟨r, failures, none, reading, control⟩ = failures := List.append_nil failures

theorem Sound.opened (limit : Nat) (r : Request) : (opened r).Sound limit := by
  refine ⟨⟨?_, rfl, Nat.zero_le limit, ?_⟩, ?_, ?_, ?_, ?_⟩
  · intro t member
    cases member
  · exact fun some => absurd rfl some
  · intro t member
    cases member
  · intro t member
    cases member
  · exact fun read => by cases read
  · exact fun closed => by cases closed

theorem Sound.asks (sound : Sound limit ⟨r, failures, none, none, none⟩)
    (room : failures.length < limit) (accepted : r.refusal? = none) :
    Sound limit
      ⟨r, failures, some ⟨r, failures.length + 1, r.call, line.now, none⟩, none, none⟩ := by
  obtain ⟨numbered, failed, _⟩ := sound
  have before : Attempt.Numbered limit r failures := by
    rwa [attempts_none] at numbered
  refine ⟨before.asks room accepted, failed, ?_, (fun read => by cases read),
    fun closed => by cases closed⟩
  intro t same
  cases same
  rfl

theorem Sound.ends (sound : Sound limit ⟨r, failures, some t, none, none⟩)
    (unfailed : isFault reply = false) :
    Sound limit ⟨r, failures, some (t.endWith line reply), none, none⟩ := by
  refine ⟨sound.numbered.ends, sound.failures, ?_, (fun read => by cases read),
    fun closed => by cases closed⟩
  intro u same
  cases same
  exact unfailed

theorem Sound.fails (sound : Sound limit ⟨r, failures, some t, none, none⟩)
    (fault : isFault reply = true) :
    Sound limit ⟨r, failures ++ [t.endWith line reply], none, none, none⟩ := by
  have numbered : Attempt.Numbered limit r (failures ++ [t.endWith line reply]) :=
    sound.numbered.ends
  refine ⟨?_, ?_, (fun u none => by cases none), (fun read => by cases read),
    fun closed => by cases closed⟩
  · rw [attempts_none]
    exact numbered
  · intro u member
    rcases List.mem_append.mp member with before | last
    · exact sound.failures u before
    · rw [List.mem_singleton.mp last]
      exact fault

/-! ## All shares -/

theorem Tells.skips (tells : Tells taken log link shares) :
    Tells (taken ++ [none]) log link shares := by
  refine ⟨?_, tells.attempts, tells.readings, tells.controls⟩
  rw [tells.requests, List.reduceOption_append]
  exact (List.append_nil _).symm

theorem Tells.opens (tells : Tells taken log link shares) (r : Request) :
    Tells (taken ++ [some r]) log link (shares ++ [opened r]) := by
  constructor
  · rw [List.map_append, tells.requests, List.reduceOption_append]
    rfl
  · rw [List.flatMap_append, tells.attempts]
    exact List.append_nil log
  · rw [List.filterMap_append, tells.readings]
    exact List.append_nil _
  · rw [List.filterMap_append, tells.controls]
    exact List.append_nil _

/-- The log without the attempts of the last share. -/
theorem Tells.log_eq (tells : Tells taken log link (done ++ [s])) :
    log = done.flatMap Share.attempts ++ s.attempts := by
  rw [← tells.attempts, List.flatMap_append, List.flatMap_singleton]

/-- The last share comes to have other attempts. -/
theorem Tells.changes (tells : Tells taken log link (done ++ [s]))
    (request : s'.request = s.request) (reading : s'.reading = s.reading)
    (control : s'.control = s.control)
    (readings : link'.recorded Event.reading? = link.recorded Event.reading?)
    (controls : link'.recorded Event.control? = link.recorded Event.control?) :
    Tells taken (done.flatMap Share.attempts ++ s'.attempts) link' (done ++ [s']) := by
  constructor
  · rw [← tells.requests, List.map_append, List.map_append, List.map_singleton, List.map_singleton,
      request]
  · rw [List.flatMap_append, List.flatMap_singleton]
  · rw [readings, ← tells.readings, List.filterMap_append, List.filterMap_append,
      List.filterMap_cons, List.filterMap_cons, reading]
  · rw [controls, ← tells.controls, List.filterMap_append, List.filterMap_append,
      List.filterMap_cons, List.filterMap_cons, control]

/-- One more call is made for the last request. -/
theorem Tells.asks (tells : Tells taken log link (done ++ [⟨r, failures, none, none, none⟩]))
    (asks : link.Asks link' r.call) (began : Binary64) :
    Tells taken (log ++ [⟨r, failures.length + 1, r.call, began, none⟩]) link'
      (done ++
        [⟨r, failures, some ⟨r, failures.length + 1, r.call, began, none⟩, none, none⟩]) := by
  have made := tells.log_eq
  rw [attempts_none] at made
  rw [made, List.append_assoc]
  let asked : Share :=
    ⟨r, failures, some ⟨r, failures.length + 1, r.call, began, none⟩, none, none⟩
  have same : asked.request = r := rfl
  exact tells.changes same rfl rfl asks.works.readings asks.works.controls

/-- The last call ends, and no other follows. -/
theorem Tells.ends (tells : Tells taken log link (done ++ [⟨r, failures, some t, none, none⟩]))
    (readings : link'.recorded Event.reading? = link.recorded Event.reading?)
    (controls : link'.recorded Event.control? = link.recorded Event.control?)
    (line : Line) (reply : Except Failure (List UInt8)) :
    Tells taken (done.flatMap Share.attempts ++ (failures ++ [t.endWith line reply])) link'
      (done ++ [⟨r, failures, some (t.endWith line reply), none, none⟩]) := by
  let ended : Share := ⟨r, failures, some (t.endWith line reply), none, none⟩
  have same : ended.request = r := rfl
  exact tells.changes same rfl rfl readings controls

/-- The last call ends in a fault. -/
theorem Tells.fails (tells : Tells taken log link (done ++ [⟨r, failures, some t, none, none⟩]))
    (readings : link'.recorded Event.reading? = link.recorded Event.reading?)
    (controls : link'.recorded Event.control? = link.recorded Event.control?)
    (line : Line) (reply : Except Failure (List UInt8)) :
    Tells taken (done.flatMap Share.attempts ++ (failures ++ [t.endWith line reply])) link'
      (done ++ [⟨r, failures ++ [t.endWith line reply], none, none, none⟩]) := by
  let failed : Share := ⟨r, failures ++ [t.endWith line reply], none, none, none⟩
  have same : failed.request = r := rfl
  have tells := tells.changes same rfl rfl readings controls
  rwa [attempts_none] at tells

theorem Tells.delivers (tells : Tells taken log link (done ++ [s])) (unread : s.reading = none) :
    Tells taken log (link.record (.delivered reading))
      (done ++ [{ s with reading := some reading }]) := by
  constructor
  · rw [← tells.requests, List.map_append, List.map_append]
    rfl
  · rw [← tells.attempts, List.flatMap_append, List.flatMap_append]
    rfl
  · have found : (Event.delivered reading).reading? = some reading := rfl
    have before := tells.readings
    rw [List.filterMap_append, List.filterMap_cons_none unread, List.filterMap_nil,
      List.append_nil] at before
    rw [Link.recorded_some link found, ← before, List.filterMap_append]
    rfl
  · rw [Link.recorded_none link rfl, ← tells.controls, List.filterMap_append,
      List.filterMap_append]
    rfl

theorem Tells.reports {control : Control} (tells : Tells taken log link (done ++ [s]))
    (open_yet : s.control = none) :
    Tells taken log (link.record (.reported control))
      (done ++ [{ s with control := some control }]) := by
  constructor
  · rw [← tells.requests, List.map_append, List.map_append]
    rfl
  · rw [← tells.attempts, List.flatMap_append, List.flatMap_append]
    rfl
  · rw [Link.recorded_none link rfl, ← tells.readings, List.filterMap_append,
      List.filterMap_append]
    rfl
  · have found : (Event.reported control).control? = some control := rfl
    have before := tells.controls
    rw [List.filterMap_append, List.filterMap_cons_none open_yet, List.filterMap_nil,
      List.append_nil] at before
    rw [Link.recorded_some link found, ← before, List.filterMap_append]
    rfl

theorem Tells.aside (tells : Tells taken log link shares)
    (readings : link'.recorded Event.reading? = link.recorded Event.reading?)
    (controls : link'.recorded Event.control? = link.recorded Event.control?) :
    Tells taken log link' shares :=
  ⟨tells.requests, tells.attempts, tells.readings.trans readings.symm,
    tells.controls.trans controls.symm⟩

end Share

/-! ## Steps -/

/-- Whatever the agent is at, all but the last request are complete. -/
theorem Agent.Stage.Holds.before_last (holds : stage.Holds limit shares) :
    ∀ s ∈ shares.dropLast, s.Complete limit := by
  have all (complete : ∀ s ∈ shares, s.Complete limit) : ∀ s ∈ shares.dropLast, s.Complete limit :=
    fun s member => complete s (List.dropLast_subset shares member)
  unfold Holds at holds
  split at holds
  · exact all holds
  · exact all holds
  · exact holds
  · obtain ⟨done, s, rfl, complete, _⟩ := holds
    rw [List.dropLast_concat]
    exact complete

theorem holds_failed (complete : ∀ d ∈ done, d.Complete limit) {f : Failure} :
    Agent.Stage.Holds limit (done ++ [s]) (.ended (.failed f)) := by
  intro d member
  rw [List.dropLast_concat] at member
  exact complete d member

theorem Shared.changes (shared : Shared limit taken log stage link (done ++ [s]))
    {log' : List Attempt} {stage' : Agent.Stage}
    (tells : Share.Tells taken log' link' (done ++ [s'])) (sound : s'.Sound limit)
    (holds : stage'.Holds limit (done ++ [s'])) :
    Shared limit taken log' stage' link' (done ++ [s']) := by
  refine ⟨tells, ?_, holds⟩
  intro x member
  rcases List.mem_append.mp member with before | last
  · exact shared.sound x (List.mem_append_left _ before)
  · rw [List.mem_singleton.mp last]
    exact sound

/-- The control completes the last share. -/
theorem Shared.reports {attempt : Option Attempt} {read : Option Reading} {control : Control}
    (shared : Shared limit taken log stage link (done ++ [⟨r, failures, attempt, read, none⟩]))
    (complete : ∀ d ∈ done, d.Complete limit)
    (last : Share.Complete limit ⟨r, failures, attempt, read, some control⟩) :
    Shared limit taken log .idle (link.record (.reported control))
      (done ++ [⟨r, failures, attempt, read, some control⟩]) := by
  have sound := shared.sound _ (List.mem_append_right done List.mem_cons_self)
  refine shared.changes (shared.tells.reports rfl) ?_ ?_
  · exact ⟨sound.numbered, sound.failures, sound.last, sound.read, fun _ => last⟩
  · intro s member
    rcases List.mem_append.mp member with before | same
    · exact complete s before
    · rw [List.mem_singleton.mp same]
      exact last

/-- An agent that fails leaves the shares as they are. -/
theorem Shared.ends (shared : Shared limit taken log stage link shares)
    (readings : link'.recorded Event.reading? = link.recorded Event.reading?)
    (controls : link'.recorded Event.control? = link.recorded Event.control?)
    {outcome : Agent.Outcome} (cut : outcome ≠ .told) :
    Shared limit taken log (.ended outcome) link' shares := by
  refine ⟨shared.tells.aside readings controls, shared.sound, ?_⟩
  have before := shared.holds.before_last
  cases outcome with
  | told => exact absurd rfl cut
  | failed f => exact before
  | cancelled => exact before

theorem Shared.opens (shared : Shared limit taken log stage link shares)
    (complete : ∀ s ∈ shares, s.Complete limit) (r : Request) :
    Shared limit (taken ++ [some r]) log (.settling r) link (shares ++ [.opened r]) := by
  refine ⟨shared.tells.opens r, ?_, shares, _, rfl, complete, rfl⟩
  intro s member
  rcases List.mem_append.mp member with before | last
  · exact shared.sound s before
  · rw [List.mem_singleton.mp last]
    exact Share.Sound.opened limit r

theorem Shared.settled (shared : Shared limit taken log (.settling r) link shares) :
    Shared limit taken log (.asking r 1) link shares := by
  obtain ⟨tells, sound, done, s, rfl, complete, rfl⟩ := shared
  exact ⟨tells, sound, done, _, rfl, complete, [], rfl, rfl⟩

namespace Agent

variable {a : Agent} {result : Agent × Line × Pause}

/-- After a step, the log is divided among the requests taken before and by it. -/
def Divides (limit : Nat) (taken : List (Option Request)) (log : List Attempt) (line : Line)
    (result : Agent × Line × Pause) : Prop :=
  ∃ took shares, line.requests.items = took ++ result.2.1.requests.items ∧
    Shared limit (taken ++ took) log result.1.stage result.2.1.link shares

theorem Divides.of_shared (same : result.2.1.requests.items = line.requests.items)
    (shared : Shared limit taken log result.1.stage result.2.1.link shares) :
    Divides limit taken log line result := by
  refine ⟨[], shares, same.symm, ?_⟩
  rwa [List.append_nil]

theorem Pausing.shared {delay : Number} (pausing : Pausing a delay stage line result)
    (shared : Shared limit taken log stage line.link shares) :
    result.2.1.requests.items = line.requests.items ∧
      Shared limit taken log result.1.stage result.2.1.link shares := by
  cases pausing with
  | pauses pause length => exact ⟨rfl, shared⟩
  | fails endless => exact ⟨rfl, shared.ends rfl rfl (by simp)⟩

theorem Taking.divides (taking : Taking a line result) (idle : a.stage = .idle)
    (shared : Shared limit taken log a.stage line.link shares) :
    Divides limit taken log line result := by
  have complete := shared.holds
  rw [idle] at complete
  cases taking with
  | waits none => exact .of_shared rfl shared
  | told rest items =>
    exact ⟨[none], shares, items, shared.tells.skips, shared.sound, complete⟩
  | same r rest items same =>
    exact ⟨[some r], _, items, (shared.opens complete r).settled⟩
  | other r rest result items other pausing =>
    obtain ⟨left, shared⟩ := pausing.shared (shared.opens complete r)
    refine ⟨[some r], _, ?_, shared⟩
    rw [left]
    exact items

theorem Asking.divides (asking : Asking a line r number result) (same : a.settings.attempts = limit)
    (stage : a.stage = .asking r number)
    (shared : Shared limit taken log a.stage line.link shares) :
    Divides limit taken (a.observe line result.2.1 log) line result := by
  have holds := shared.holds
  rw [stage] at holds
  obtain ⟨done, s, rfl, complete, failures, rfl, rfl⟩ := holds
  have sound := shared.sound _ (List.mem_append_right done List.mem_cons_self)
  have within := sound.numbered.within
  rw [Share.attempts_none] at within
  have made := shared.tells.log_eq
  rw [Share.attempts_none] at made
  cases asking with
  | exhausted spent =>
    have unseen : a.observe line line log = log := observe_unasked stage rfl
    rw [unseen]
    refine .of_shared rfl
      ⟨shared.tells, shared.sound, done, _, rfl, complete, r, failures, rfl, ?_, rfl⟩
    omega
  | refused f room refused =>
    have unseen : a.observe line (a.fail line f).2.1 log = log := observe_unasked stage rfl
    rw [unseen]
    exact .of_shared rfl (shared.ends rfl rfl (by simp))
  | asks next exchange pause room accepted asks call length =>
    rw [observe_asks stage asks rfl]
    have tells := shared.tells.asks asks line.now
    refine .of_shared rfl (shared.changes tells (sound.asks (by omega) accepted) ?_)
    exact ⟨done, _, rfl, complete, failures, _, rfl, rfl, rfl⟩
  | overlong next room accepted asks =>
    rw [observe_asks stage asks rfl]
    have tells := shared.tells.asks asks line.now
    refine .of_shared rfl (shared.changes tells (sound.asks (by omega) accepted) ?_)
    exact holds_failed complete

theorem Settling.divides {exchange : Exchange} (settling : Settling a line r number exchange result)
    (stage : a.stage = .waiting r number exchange)
    (shared : Shared limit taken log a.stage line.link shares) :
    Divides limit taken (a.observe line result.2.1 log) line result := by
  have holds := shared.holds
  rw [stage] at holds
  obtain ⟨done, s, rfl, complete, failures, t, rfl, rfl, in_flight⟩ := holds
  have sound := shared.sound _ (List.mem_append_right done List.mem_cons_self)
  have made := shared.tells.log_eq
  change log = done.flatMap Share.attempts ++ (failures ++ [t]) at made
  have seen : a.observe line result.2.1 log =
      done.flatMap Share.attempts ++ (failures ++ [t.endWith line exchange.settle]) := by
    rw [made, ← List.append_assoc, observe_ends stage, List.append_assoc]
  rw [seen]
  cases settling with
  | delivers next bytes value calm works reply decoded =>
    have tells := shared.tells.ends works.readings works.controls line exchange.settle
    have unfailed : isFault exchange.settle = false := by rw [reply]; rfl
    refine .of_shared rfl (shared.changes tells (sound.ends unfailed) ?_)
    refine ⟨done, _, rfl, complete, failures, _, rfl, line, bytes, ?_, works.now, decoded⟩
    rw [← reply]
    rfl
  | retries next fault result reply warns pausing =>
    have tells := shared.tells.fails warns.works.readings warns.works.controls line exchange.settle
    have failed : isFault exchange.settle = true := by rw [reply]; rfl
    have holds : (Stage.retrying r (failures.length + 1)).Holds limit
        (done ++ [⟨r, failures ++ [t.endWith line exchange.settle], none, none, none⟩]) :=
      ⟨done, _, rfl, complete, _, rfl, List.length_append⟩
    obtain ⟨left, shared⟩ := pausing.shared (shared.changes tells (sound.fails failed) holds)
    exact .of_shared left shared
  | fails next f unfailed calm works =>
    have tells := shared.tells.ends works.readings works.controls line exchange.settle
    refine .of_shared rfl (shared.changes tells (sound.ends unfailed) ?_)
    exact holds_failed complete

theorem Moves.divides (same : a.settings.attempts = limit) (moves : Moves a line result)
    (shared : Shared limit taken log a.stage line.link shares) :
    Divides limit taken (a.observe line result.2.1 log) line result := by
  have holds := shared.holds
  cases moves with
  | takes result stage taking =>
    rw [observe_still (by rw [stage]; rfl)]
    exact taking.divides stage shared
  | settled r stage =>
    rw [stage] at shared
    rw [observe_still (by rw [stage]; rfl)]
    exact .of_shared rfl shared.settled
  | asks r number result stage asking => exact asking.divides same stage shared
  | settles r number exchange result stage settling => exact settling.divides stage shared
  | retried r number stage =>
    rw [stage] at holds
    obtain ⟨done, s, rfl, complete, failures, rfl, rfl⟩ := holds
    rw [observe_still (by rw [stage]; rfl)]
    exact .of_shared rfl
      ⟨shared.tells, shared.sound, done, _, rfl, complete, failures, rfl, rfl⟩
  | holds reading stage full =>
    rw [observe_still (by rw [stage]; rfl)]
    exact .of_shared rfl shared
  | delivers reading stage room =>
    rw [stage] at holds
    obtain ⟨done, s, rfl, complete, failures, t, rfl, gives⟩ := holds
    have sound := shared.sound _ (List.mem_append_right done List.mem_cons_self)
    rw [observe_still (by rw [stage]; rfl)]
    refine .of_shared rfl (shared.changes (shared.tells.delivers rfl) ?_ ?_)
    · exact ⟨sound.numbered, sound.failures, sound.last, fun _ => rfl,
        fun closed => by cases closed⟩
    · exact ⟨done, _, rfl, complete, failures, t, reading, rfl, gives, rfl⟩
  | withholds control stage full =>
    rw [observe_still (by rw [stage]; rfl)]
    exact .of_shared rfl shared
  | reports control stage room =>
    rw [stage] at holds
    rw [observe_still (by rw [stage]; rfl)]
    cases control with
    | answered device =>
      obtain ⟨done, s, rfl, complete, failures, t, reading, rfl, gives, rfl⟩ := holds
      exact .of_shared rfl (shared.reports complete (.answered failures t reading gives))
    | silent device =>
      obtain ⟨done, s, rfl, complete, r, failures, rfl, all, rfl⟩ := holds
      exact .of_shared rfl (shared.reports complete (.silent r failures all))
  | stays outcome stage =>
    rw [observe_still (by rw [stage]; rfl)]
    exact .of_shared rfl shared

end Agent

end MeterPolling
