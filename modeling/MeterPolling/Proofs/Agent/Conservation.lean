import MeterPolling.Proofs.Agent.Shares
/-!
The counters of an agent are accounted for. Each query that was counted is one call of the client;
each of those that failed was counted once more and warned of; and for each of the others a reading
was put, apart from the latest. The calls and the failures are those of the single requests, and for
a request that is done with they are known from its control.
-/
namespace MeterPolling

structure Share.Adds (limit : Nat) (s : Share) (made failed : Nat) : Prop where
  calls : s.attempts.map Attempt.call = List.replicate made s.request.call
  faults : s.attempts.countP Attempt.failed = failed
  warnings : (s.attempts.filter Attempt.failed).map (Attempt.warning limit) =
    (List.range' 1 failed).map fun number => ⟨s.request.device, number, limit⟩

structure Divided (limit : Nat) (requests : List Request) (log : List Attempt) (outputs : Outputs)
    (shares : List Share) : Prop where
  each : shares.map Share.request = requests
  attempts : shares.flatMap Share.attempts = log
  readings : shares.filterMap Share.reading = outputs.readings
  controls : shares.filterMap Share.control = outputs.controls
  /-- All but the latest request are done with. -/
  done : ∀ s ∈ shares.dropLast, s.control.isSome
  /-- An answer at the attempt with some number takes so many calls. -/
  answered : ∀ s ∈ shares, ∀ device, s.control = some (.answered device) →
    ∃ t reading, s.attempts.getLast? = some t ∧ t.Gives reading ∧ s.reading = some reading ∧
      1 ≤ t.number ∧ t.number ≤ limit ∧ s.Adds limit t.number (t.number - 1)
  silent : ∀ s ∈ shares, ∀ device, s.control = some (.silent device) →
    s.reading = none ∧ s.Adds limit limit limit
  refused : ∀ s ∈ shares, s.request.refusal?.isSome → s.Adds limit 0 0

namespace Agent

/-- How many queries that did not fail are ahead of the readings put, at a stage. -/
def Stage.Ahead : Stage → Nat → Prop
  | .waiting .., ahead | .delivering _, ahead => ahead = 1
  | .ended (.failed _), ahead | .ended .cancelled, ahead => ahead ≤ 1
  | _, ahead => ahead = 0

/-- The counters, against the calls of the client, the warnings, a log of the attempts and what was
put. -/
structure Conserved (limit : Nat) (fed : List (Option Request)) (log : List Attempt)
    (outputs : Outputs) (a : Agent) (line : Line) : Prop where
  requests : line.link.counters.requests = (line.link.recorded Event.call?).length
  client : ∃ client, line.link.session.client = some client ∧
    client.calls.reverse = line.link.recorded Event.call?
  calls : line.link.recorded Event.call? = log.map Attempt.call
  reconnects : line.link.counters.reconnects = log.countP Attempt.failed
  warned : line.link.counters.reconnects = (line.link.recorded Event.warning?).length
  warnings : line.link.recorded Event.warning? =
    (log.filter Attempt.failed).map (Attempt.warning limit)
  balance : ∃ ahead, a.stage.Ahead ahead ∧ line.link.counters.requests =
    line.link.counters.reconnects + outputs.readings.length + ahead
  /-- The readings and controls on record are those that were put. -/
  recorded : line.link.outputs = outputs
  divided : ∃ taken shares, fed = taken ++ line.requests.items ∧
    Divided limit taken.reduceOption log outputs shares

end Agent

variable {limit : Nat} {s : Share} {shares done : List Share} {taken : List (Option Request)}
  {log : List Attempt} {stage : Agent.Stage} {link : Link}

namespace Share

/-- The attempts that did not fail outnumber the readings by so many. -/
def Exceeds (s : Share) (ahead : Nat) : Prop :=
  s.last.toList.length = s.reading.toList.length + ahead

theorem Sound.filter_failed (sound : s.Sound limit) :
    s.attempts.filter Attempt.failed = s.failures := by
  have all : s.failures.filter Attempt.failed = s.failures :=
    List.filter_eq_self.mpr sound.failures
  have none : s.last.toList.filter Attempt.failed = [] := by
    refine List.filter_eq_nil_iff.mpr fun t member => ?_
    rw [sound.last t (Option.mem_toList.mp member)]
    exact Bool.false_ne_true
  rw [attempts, List.filter_append, all, none, List.append_nil]

theorem Sound.countP_failed (sound : s.Sound limit) :
    s.attempts.countP Attempt.failed = s.failures.length := by
  rw [List.countP_eq_length_filter, sound.filter_failed]

theorem Sound.adds (sound : s.Sound limit) : s.Adds limit s.attempts.length s.failures.length := by
  have own := sound.numbered.own
  constructor
  · rw [List.eq_replicate_iff, List.length_map]
    refine ⟨rfl, fun call member => ?_⟩
    obtain ⟨t, made, rfl⟩ := List.mem_map.mp member
    exact (own t made).2
  · exact sound.countP_failed
  · -- the numbers of the failures are the first of all numbers
    have numbers : s.failures.map Attempt.number = List.range' 1 s.failures.length := by
      have all := sound.numbered.numbers
      rw [attempts, List.map_append, List.length_append, ← List.range'_append_1] at all
      exact List.append_inj_left all (by rw [List.length_map, List.length_range'])
    rw [sound.filter_failed, ← numbers, List.map_map]
    refine List.map_congr_left fun t member => ?_
    have same := (own t (List.mem_append_left _ member)).1
    rw [Attempt.warning, same]
    rfl

theorem Exceeds.counts {ahead : Nat} (exceeds : s.Exceeds ahead) (sound : s.Sound limit) :
    s.attempts.length =
      s.attempts.countP Attempt.failed + s.reading.toList.length + ahead := by
  rw [sound.countP_failed, attempts, List.length_append, exceeds, Nat.add_assoc]

theorem Complete.exceeds (complete : s.Complete limit) : s.Exceeds 0 := by
  cases complete <;> rfl

theorem Sound.exceeds (sound : s.Sound limit) : ∃ ahead ≤ 1, s.Exceeds ahead := by
  obtain ⟨r, failures, last, reading, control⟩ := s
  have read := sound.read
  cases last with
  | none =>
    cases reading with
    | none => exact ⟨0, Nat.zero_le 1, rfl⟩
    | some reading => cases read rfl
  | some t =>
    cases reading with
    | none => exact ⟨1, Nat.le_refl 1, rfl⟩
    | some reading => exact ⟨0, Nat.zero_le 1, rfl⟩

theorem At.exceeds (working : s.At limit stage) (busy : stage ≠ .idle)
    (alive : ∀ outcome, stage ≠ .ended outcome) :
    ∃ ahead, stage.Ahead ahead ∧ s.Exceeds ahead := by
  cases stage with
  | idle => exact absurd rfl busy
  | ended outcome => exact absurd rfl (alive outcome)
  | settling r =>
    cases working
    exact ⟨0, rfl, rfl⟩
  | asking r number =>
    obtain ⟨failures, rfl, _⟩ := working
    exact ⟨0, rfl, rfl⟩
  | retrying r number =>
    obtain ⟨failures, rfl, _⟩ := working
    exact ⟨0, rfl, rfl⟩
  | waiting r number exchange =>
    obtain ⟨failures, t, rfl, _⟩ := working
    exact ⟨1, rfl, rfl⟩
  | delivering reading =>
    obtain ⟨failures, t, rfl, _⟩ := working
    exact ⟨1, rfl, rfl⟩
  | reporting control =>
    cases control with
    | answered device =>
      obtain ⟨failures, t, reading, rfl, _⟩ := working
      exact ⟨0, rfl, rfl⟩
    | silent device =>
      obtain ⟨r, failures, rfl, _⟩ := working
      exact ⟨0, rfl, rfl⟩

theorem exceeds_all (complete : ∀ d ∈ done, d.Complete limit) (sound : ∀ d ∈ done, d.Sound limit) :
    (done.flatMap attempts).length =
      (done.flatMap attempts).countP Attempt.failed + (done.filterMap reading).length := by
  induction done with
  | nil => rfl
  | cons s done ih =>
    have rest := ih (fun d member => complete d (List.mem_cons_of_mem s member))
      fun d member => sound d (List.mem_cons_of_mem s member)
    have first := (complete s List.mem_cons_self).exceeds.counts (sound s List.mem_cons_self)
    have read : ((s :: done).filterMap reading).length =
        s.reading.toList.length + (done.filterMap reading).length := by
      cases given : s.reading with
      | none =>
        rw [List.filterMap_cons_none given, Option.toList_none, List.length_nil, Nat.zero_add]
      | some r =>
        rw [List.filterMap_cons_some given, Option.toList_some, List.length_cons,
          List.length_singleton, Nat.add_comm]
    rw [List.flatMap_cons, List.length_append, List.countP_append, read]
    omega

theorem Exceeds.concat {ahead : Nat} (last : s.Exceeds ahead)
    (complete : ∀ d ∈ done, d.Complete limit) (sound : ∀ d ∈ done ++ [s], d.Sound limit) :
    ((done ++ [s]).flatMap attempts).length =
      ((done ++ [s]).flatMap attempts).countP Attempt.failed +
        ((done ++ [s]).filterMap reading).length + ahead := by
  have before := exceeds_all complete fun d member => sound d (List.mem_append_left _ member)
  have counts := last.counts (sound s (List.mem_append_right done List.mem_cons_self))
  have read : ([s].filterMap reading).length = s.reading.toList.length := by
    cases given : s.reading <;> simp [given]
  rw [List.flatMap_append, List.filterMap_append, List.length_append, List.length_append,
    List.countP_append, List.flatMap_singleton, read]
  omega

end Share

theorem Shared.balance (shared : Shared limit taken log stage link shares) :
    ∃ ahead, stage.Ahead ahead ∧
      log.length = log.countP Attempt.failed + (link.recorded Event.reading?).length + ahead := by
  obtain ⟨⟨_, rfl, readings, _⟩, sound, holds⟩ := shared
  rw [← readings]
  -- an agent that was stopped may have been at any stage
  have stopped (complete : ∀ s ∈ shares.dropLast, s.Complete limit) : ∃ ahead ≤ 1,
      (shares.flatMap Share.attempts).length =
        (shares.flatMap Share.attempts).countP Attempt.failed +
          (shares.filterMap Share.reading).length + ahead := by
    rcases List.eq_nil_or_concat shares with rfl | ⟨done, s, rfl⟩
    · exact ⟨0, Nat.zero_le 1, rfl⟩
    · rw [List.concat_eq_append] at complete sound ⊢
      rw [List.dropLast_concat] at complete
      obtain ⟨ahead, one, exceeds⟩ :=
        (sound s (List.mem_append_right done List.mem_cons_self)).exceeds
      exact ⟨ahead, one, exceeds.concat complete sound⟩
  have working (busy : stage ≠ .idle) (alive : ∀ outcome, stage ≠ .ended outcome)
      (under : ∃ done s, shares = done ++ [s] ∧ (∀ d ∈ done, d.Complete limit) ∧ s.At limit stage) :
      ∃ ahead, stage.Ahead ahead ∧ (shares.flatMap Share.attempts).length =
        (shares.flatMap Share.attempts).countP Attempt.failed +
          (shares.filterMap Share.reading).length + ahead := by
    obtain ⟨done, s, rfl, complete, at_stage⟩ := under
    obtain ⟨ahead, stands, exceeds⟩ := at_stage.exceeds busy alive
    exact ⟨ahead, stands, exceeds.concat complete sound⟩
  cases stage with
  | idle => exact ⟨0, rfl, Share.exceeds_all holds sound⟩
  | ended outcome =>
    cases outcome with
    | told => exact ⟨0, rfl, Share.exceeds_all holds sound⟩
    | failed f => exact stopped holds
    | cancelled => exact stopped holds
  | _ => exact working (by simp) (by simp) holds

theorem Shared.divided (shared : Shared limit taken log stage link shares) :
    Divided limit taken.reduceOption log link.outputs shares := by
  obtain ⟨⟨requests, attempts, readings, controls⟩, sound, holds⟩ := shared
  refine ⟨requests, attempts, readings, controls, ?_, ?_, ?_, ?_⟩
  case refine_1 =>
    intro s member
    cases holds.before_last s member <;> rfl
  case refine_2 =>
    intro s member device answered
    have sound := sound s member
    have adds := sound.adds
    cases sound.closed (by rw [answered]; rfl) with
    | answered failures t reading gives =>
      have last : (failures ++ [t]).getLast? = some t := List.getLast?_concat
      have number : t.number = failures.length + 1 := by
        have numbers := sound.numbered.numbers
        simp only [Share.attempts, Option.toList_some, List.map_append, List.length_append,
          List.length_singleton, List.range'_1_concat] at numbers
        have same := List.append_inj_right' numbers rfl
        rw [List.map_singleton, List.singleton_inj] at same
        omega
      have calls : (failures ++ [t]).length = t.number := by
        rw [number, List.length_append, List.length_singleton]
      have within : (failures ++ [t]).length ≤ limit := sound.numbered.within
      have one_less : failures.length = t.number - 1 := by rw [number, Nat.add_sub_cancel]
      refine ⟨t, reading, last, gives, rfl, by omega, by omega, ?_⟩
      rw [← one_less, ← calls]
      exact adds
    | silent r failures all => cases answered
  case refine_3 =>
    intro s member device silent
    have sound := sound s member
    have adds := sound.adds
    cases sound.closed (by rw [silent]; rfl) with
    | answered failures t reading gives => cases silent
    | silent r failures all =>
      refine ⟨rfl, ?_⟩
      rw [Share.attempts_none, all] at adds
      exact adds
  case refine_4 =>
    intro s member refused
    have sound := sound s member
    have none : s.attempts = [] := by
      refine Classical.byContradiction fun some => ?_
      rw [sound.numbered.accepted some] at refused
      cases refused
    have adds := sound.adds
    have failures : s.failures = [] := (List.append_eq_nil_iff.mp none).1
    rw [none, failures] at adds
    exact adds

namespace Agent

variable {a : Agent} {line₀ line : Line} {settings : Settings} {puts : List (Option Request)}
  {outputs : Outputs}

/-- At every moment of a run, what was taken has its shares in the log. -/
theorem Observed.shared (fresh : Unwarned line₀.link)
    (observed : Observed (make settings) line₀ puts log outputs a line) :
    ∃ taken shares, line₀.requests.items ++ puts = taken ++ line.requests.items ∧
      Shared settings.attempts taken log a.stage line.link shares := by
  induction observed with
  | start =>
    refine ⟨[], [], List.append_nil _, ⟨rfl, rfl, ?_, ?_⟩, ?_, ?_⟩
    · exact fresh.unread.symm
    · exact fresh.unreported.symm
    · exact fun s member => by cases member
    · exact fun s member => by cases member
  | step observed ih =>
    obtain ⟨taken, shares, split, shared⟩ := ih
    obtain ⟨same, serves⟩ := observed.serves fresh.toUnused
    obtain ⟨took, shares', items, shared'⟩ :=
      (step_moves serves).divides (congrArg Settings.attempts same) shared
    refine ⟨taken ++ took, shares', ?_, shared'⟩
    rw [split, items, List.append_assoc]
  | @cancel _ _ _ a line _ ih =>
    obtain ⟨taken, shares, split, shared⟩ := ih
    rcases a.cancel_cases line with alive | ⟨_, same⟩
    · obtain ⟨agent, link, items⟩ := cancel_alive line alive
      have works := (cancel_quiet a line).link
      rw [agent, items]
      exact ⟨taken, shares, split, shared.ends works.readings works.controls (by simp)⟩
    · rw [same]
      exact ⟨taken, shares, split, shared⟩
  | put item _ ih =>
    obtain ⟨taken, shares, split, shared⟩ := ih
    refine ⟨taken, shares, ?_, shared⟩
    rw [← List.append_assoc, split, List.append_assoc]
    rfl
  | aside _ apart ih =>
    obtain ⟨taken, shares, split, shared⟩ := ih
    rw [apart.requests]
    exact ⟨taken, shares, split, shared.tells.aside apart.readings apart.controls, shared.sound,
      shared.holds⟩

/-- At every moment of a run on a link that was not used before, the counters agree with the calls
of the client, with the warnings and with the readings that were put. -/
theorem Observed.counters_are_conserved (fresh : Unwarned line₀.link)
    (observed : Observed (make settings) line₀ puts log outputs a line) :
    Conserved settings.attempts (line₀.requests.items ++ puts) log outputs a line := by
  have recorded := observed.emitted.recorded fresh.toUnused
  subst recorded
  have logged := observed.logged fresh
  obtain ⟨taken, shares, split, shared⟩ := observed.shared fresh
  obtain ⟨ahead, stands, balance⟩ := shared.balance
  constructor
  case requests => rw [logged.requests, logged.calls, List.length_map]
  case client =>
    obtain ⟨_, _, client, present, _, calls⟩ := observed.serves fresh.toUnused
    refine ⟨client, present, ?_⟩
    rw [calls, Link.earlier, List.reverse_reverse]
  case calls => exact logged.calls
  case reconnects => exact logged.reconnects
  case warned =>
    rw [logged.reconnects, logged.warnings, List.length_map, List.countP_eq_length_filter]
  case warnings => exact logged.warnings
  case balance =>
    refine ⟨ahead, stands, ?_⟩
    rw [logged.requests, logged.reconnects]
    exact balance
  case recorded => rfl
  case divided => exact ⟨taken, shares, split, shared.divided⟩

/-- The hesitant meter answers at the second call, so that one failed; after its reading was put
nothing is ahead, and while it is held one is. -/
theorem Observed.second_call_is_conserved :
    let line := hesitantLine none 0
    let log := watch 10 [] (make .default) line
    let held := (make .default).advance 7 line
    let last := (make .default).advance 10 line
    let outputs : Outputs := ⟨last.2.readings.items, last.2.controls.items⟩
    Unwarned line.link ∧ Observed (make .default) line [] log outputs last.1 last.2 ∧
      (held.2.link.counters = ⟨2, 1⟩ ∧ held.2.readings.items = []) ∧
      (last.2.link.counters = ⟨2, 1⟩ ∧ outputs.readings.length = 1) ∧
      Conserved 5 (line.requests.items ++ []) log outputs last.1 last.2 := by
  intro line log held last outputs
  have fresh := hesitantLine_unwarned none 0
  obtain ⟨put, observed⟩ := (Observed.start : Observed _ line _ _ _ _ _).advance 10
  -- nobody reads the outputs of this line, so that all that was put is still there
  have left : last.2.link.outputs = outputs := by decide +kernel
  have all : put = outputs := (observed.emitted.recorded fresh.toUnused).symm.trans left
  rw [all] at observed
  have ahead : held.2.link.counters = ⟨2, 1⟩ ∧ held.2.readings.items = [] := by decide +kernel
  have level : last.2.link.counters = ⟨2, 1⟩ ∧ outputs.readings.length = 1 := by decide +kernel
  exact ⟨fresh, observed, ahead, level, Observed.counters_are_conserved fresh observed⟩

end Agent

end MeterPolling
