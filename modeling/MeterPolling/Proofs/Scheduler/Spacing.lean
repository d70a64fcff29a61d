import MeterPolling.Proofs.Scheduler.TimedBench
import MeterPolling.Proofs.Value
/-!
The spacing of the rounds. When a round is over, what its work took is deducted from the interval, and
the rest is slept: so the next round starts when the interval since the start of this one is over, or
at once when it was longer than that. The starts of rounds that are not too long do not drift, as long
as the clock's own arithmetic needs no rounding.
-/
namespace MeterPolling.Scheduler

open Agent (Turn)

variable {devices : List (Int × Producer)} {interval : Number} {text : String} {s : Scheduler}
  {line line₀ line' : Line} {log : Log} {turn : Turn} {i a e : ℚ} {started : Binary64}
  {warnings : List Binary64} {r : Nat}

/-! ## What is left of an interval -/

/-- The sums and differences of a round that lasted from one time to another, and of the interval
between the starts, can be had without rounding. What is slept is only what is left. -/
structure Exact (i a e : ℚ) : Prop where
  length : Binary64.Representable i
  elapsed : Binary64.Representable (e - a)
  left : Binary64.Representable (i - (e - a))
  next : e - a < i → Binary64.Representable (a + i)

/-- What follows a round when nothing is rounded. -/
theorem rest_exact (length : s.interval.value? = some i) (start : started.value? = some a)
    (now : line.now.value? = some e) (exact : Exact i a e) :
    ∃ elapsed left : Binary64, elapsed.value? = some (e - a) ∧
      left.value? = some (i - (e - a)) ∧
      s.rest line started = ({ s with stage := .resting },
        if i < e - a then line.note (.roundOverran elapsed s.intervalText) else line,
        if e - a < i then .sleeps left else .yields) := by
  obtain ⟨v, found, value⟩ := Number.toBinary64?_value length exact.length
  have elapsed := Binary64.sub_value now start exact.elapsed
  have left := Binary64.sub_value value elapsed exact.left
  have zero : Binary64.zero.value? = some 0 := congrArg some Magnitude.value_zero
  have overran : s.interval.less (.real (line.now - started)) = true ↔ i < e - a :=
    Number.less_iff length elapsed
  have sleeps : Binary64.zero.less (v - (line.now - started)) = true ↔ e - a < i :=
    (Binary64.less_iff zero left).trans sub_pos
  refine ⟨_, _, elapsed, left, ?_⟩
  unfold rest
  simp only [found, overran, sleeps]

/-! ## Rounds and their starts -/

/-- A round of the log lasted from one time to another, when the last of its requests was
acknowledged. -/
structure Log.Lasted (log : Log) (r : Nat) (a e : ℚ) (warnings : List Binary64) : Prop where
  start : ∃ x, log.starts[r]? = some x ∧ x.value? = some a
  finish : ∃ y, log.finishes[r]? = some ⟨some y, warnings⟩ ∧ y.value? = some e

/-- The next step of a scheduler is due at a time. The clock has not passed it. -/
def DueAt (now : Binary64) (time : ℚ) : Turn → Prop
  | .running | .ready => now.value? = some time
  | .asleep deadline => deadline.value? = some time ∧ now ≤ deadline
  | .waiting | .gone => False

structure Spaced (i : ℚ) (before : List Binary64) (log : Log) (stage : Stage) (line : Line)
    (turn : Turn) : Prop where
  /-- Nothing but the rounds is warned of. -/
  recorded : line.overruns = before ++ (log.finishes.map (·.warnings)).flatten
  dated : ∀ finish ∈ log.finishes, finish.time.isSome
  /-- A round is warned of just when it was longer than the interval. -/
  warned : ∀ r a e warnings, log.Lasted r a e warnings → Exact i a e →
    (i < e - a → ∃ elapsed, warnings = [elapsed] ∧ elapsed.value? = some (e - a)) ∧
      (e - a ≤ i → warnings = [])
  /-- The next round starts when the interval is over, or else as soon as this one is. -/
  follows : ∀ r a e warnings, log.Lasted r a e warnings → Exact i a e →
    ∀ x, log.starts[r + 1]? = some x → x.value? = some (max (a + i) e)
  /-- Until then the scheduler rests. -/
  due : ∀ r a e warnings, log.Lasted r a e warnings → Exact i a e → log.starts.length = r + 1 →
    (stage = .resting ∨ stage = .starting) ∧ DueAt line.now (max (a + i) e) turn

def Stands (log : Log) (line : Line) (turn : Turn) : Stage → Prop
  | .queueing rest _ started =>
    log.starts.length = log.finishes.length + 1 ∧ log.starts.getLast? = some started ∧
      (rest = [] → turn = .running ∧ 0 < line.requests.unacknowledged)
  | .joining started =>
    log.starts.length = log.finishes.length + 1 ∧ log.starts.getLast? = some started ∧
      (turn = .running ∨ turn = .waiting) ∧
      (line.requests.unacknowledged = 0 → log.acknowledged = some line.now)
  | _ => log.finishes.length = log.starts.length

structure Kept (devices : List (Int × Producer)) (interval : Number) (i : ℚ)
    (before : List Binary64) (log : Log) (s : Scheduler) (line : Line) (turn : Turn) : Prop where
  devices : s.devices = devices
  interval : s.interval = interval
  stands : Stands log line turn s.stage
  spaced : Spaced i before log s.stage line turn

variable {before : List Binary64} {log' : Log} {stage stage' : Stage} {turn' : Turn}

theorem Log.Lasted.congr (lasted : log'.Lasted r a e warnings) (starts : log'.starts = log.starts)
    (finishes : log'.finishes = log.finishes) : log.Lasted r a e warnings := by
  obtain ⟨start, finish⟩ := lasted
  rw [starts] at start
  rw [finishes] at finish
  exact ⟨start, finish⟩

/-- What leaves the log and the warnings as they are has only to keep the next start. -/
theorem Spaced.congr (spaced : Spaced i before log stage line turn)
    (starts : log'.starts = log.starts) (finishes : log'.finishes = log.finishes)
    (overruns : line'.overruns = line.overruns)
    (due : ∀ time, stage = .resting ∨ stage = .starting → DueAt line.now time turn →
      (stage' = .resting ∨ stage' = .starting) ∧ DueAt line'.now time turn') :
    Spaced i before log' stage' line' turn' := by
  constructor
  case recorded => rw [overruns, finishes, spaced.recorded]
  case dated => exact finishes ▸ spaced.dated
  case warned =>
    exact fun r a e warnings lasted => spaced.warned r a e warnings (lasted.congr starts finishes)
  case follows =>
    rw [starts]
    exact fun r a e warnings lasted => spaced.follows r a e warnings (lasted.congr starts finishes)
  case due =>
    intro r a e warnings lasted exact count
    rw [starts] at count
    obtain ⟨between, next⟩ :=
      spaced.due r a e warnings (lasted.congr starts finishes) exact count
    exact due _ between next

/-- What lasted when a round begins is a round that began before. -/
theorem Log.Lasted.before_start {now : Binary64} {acknowledged : Option Binary64}
    (even : log.finishes.length = log.starts.length)
    (lasted : Log.Lasted ⟨log.starts ++ [now], acknowledged, log.finishes⟩ r a e warnings) :
    r < log.starts.length ∧ log.Lasted r a e warnings := by
  obtain ⟨⟨x, start, value⟩, y, finish, value'⟩ := lasted
  have ended : r < log.finishes.length := (List.getElem?_eq_some_iff.mp finish).1
  have within : r < log.starts.length := even ▸ ended
  rw [List.getElem?_append_left within] at start
  exact ⟨within, ⟨x, start, value⟩, y, finish, value'⟩

/-- What lasted when a round ends was over before, or it is the round that ends. -/
theorem Log.Lasted.at_finish {entry : List Binary64}
    (count : log.starts.length = log.finishes.length + 1)
    (began : log.starts.getLast? = some started) (now : log.acknowledged = some line.now)
    (lasted : Log.Lasted ⟨log.starts, log.acknowledged,
      log.finishes ++ [⟨log.acknowledged, entry⟩]⟩ r a e warnings) :
    log.Lasted r a e warnings ∧ r < log.finishes.length ∨
      r = log.finishes.length ∧ started.value? = some a ∧ line.now.value? = some e ∧
        warnings = entry := by
  obtain ⟨⟨x, start, value⟩, y, finish, value'⟩ := lasted
  rcases Nat.lt_trichotomy r log.finishes.length with ended | rfl | beyond
  · rw [List.getElem?_append_left ended] at finish
    exact .inl ⟨⟨⟨x, start, value⟩, y, finish, value'⟩, ended⟩
  · rw [List.getLast?_eq_getElem?, count, Nat.add_sub_cancel, start] at began
    rw [List.getElem?_concat_length, now] at finish
    cases began
    cases finish
    exact .inr ⟨rfl, value, value', rfl⟩
  · rw [List.getElem?_eq_none (by rw [List.length_append, List.length_singleton]; omega)] at finish
    cases finish

/-- A round begins when it is due. -/
theorem Spaced.begins (spaced : Spaced i before log .starting line .running)
    (even : log.finishes.length = log.starts.length) (rest : List Request) (count : Nat) :
    Spaced i before { log with starts := log.starts ++ [line.now], acknowledged := none }
      (.queueing rest count line.now) line .running := by
  constructor
  case recorded => exact spaced.recorded
  case dated => exact spaced.dated
  case warned =>
    exact fun r a e warnings lasted => spaced.warned r a e warnings (lasted.before_start even).2
  case follows =>
    intro r a e warnings lasted exact x next
    obtain ⟨within, lasted⟩ := lasted.before_start even
    by_cases last : log.starts.length = r + 1
    · rw [← last, List.getElem?_concat_length] at next
      cases next
      exact (spaced.due r a e warnings lasted exact last).2
    · rw [List.getElem?_append_left (by omega)] at next
      exact spaced.follows r a e warnings lasted exact x next
  case due =>
    intro r a e warnings lasted exact count
    obtain ⟨within, _⟩ := lasted.before_start even
    rw [List.length_append, List.length_singleton] at count
    omega

theorem overruns_note (line : Line) (elapsed : Binary64) (text : String) :
    (line.note (.roundOverran elapsed text)).overruns = line.overruns ++ [elapsed] :=
  Link.recorded_some line.link rfl

theorem rest_overruns (s : Scheduler) (line : Line) (started : Binary64) :
    (s.rest line started).2.1.overruns = line.overruns ++
      (s.rest line started).2.1.overruns.drop line.overruns.length := by
  rcases rest_line s line started with same | ⟨elapsed, text, noted⟩
  · rw [same, List.drop_length, List.append_nil]
  · rw [noted, overruns_note, List.drop_left]

/-- A round that was too long is warned of, and no other one. -/
theorem rest_warns (length : s.interval.value? = some i) (start : started.value? = some a)
    (now : line.now.value? = some e) (exact : Exact i a e) {entry : List Binary64}
    (entered : (s.rest line started).2.1.overruns.drop line.overruns.length = entry) :
    (i < e - a → ∃ elapsed, entry = [elapsed] ∧ elapsed.value? = some (e - a)) ∧
      (e - a ≤ i → entry = []) := by
  obtain ⟨elapsed, left, value, _, rests⟩ := rest_exact length start now exact
  rw [rests] at entered
  constructor
  · intro long
    rw [if_pos long, overruns_note, List.drop_left] at entered
    exact ⟨elapsed, entered.symm, value⟩
  · intro short
    rw [if_neg (not_lt.mpr short), List.drop_length] at entered
    exact entered.symm

/-- A round is followed by a rest, at the end of which the next one is due. -/
theorem rest_due (length : s.interval.value? = some i) (start : started.value? = some a)
    (now : line.now.value? = some e) (exact : Exact i a e) :
    (s.rest line started).1.stage = .resting ∧
      DueAt (s.rest line started).2.1.now (max (a + i) e)
        (.after line.now (s.rest line started).2.2) := by
  have still : (s.rest line started).2.1.now = line.now := by
    rcases rest_line s line started with same | ⟨_, _, noted⟩
    · rw [same]
    · rw [noted]
      rfl
  obtain ⟨elapsed, left, _, value, rests⟩ := rest_exact length start now exact
  rw [still, rests]
  refine ⟨rfl, ?_⟩
  simp only
  by_cases sleeps : e - a < i
  · have next : e + (i - (e - a)) = a + i := by ring
    have later : e < a + i := by linarith
    have sum := Binary64.add_value now value (next ▸ exact.next sleeps)
    rw [next] at sum
    rw [if_pos sleeps, max_eq_left (le_of_lt later)]
    exact ⟨sum, Binary64.le_of_less ((Binary64.less_iff now sum).mpr later)⟩
  · have late : a + i ≤ e := by linarith
    rw [if_neg sleeps, max_eq_right late]
    exact now

/-- A round ends with a warning if it was too long, and with a rest if it was not. -/
theorem Spaced.ends (spaced : Spaced i before log (.joining started) line .running)
    (count : log.starts.length = log.finishes.length + 1)
    (began : log.starts.getLast? = some started) (now : log.acknowledged = some line.now)
    (length : s.interval.value? = some i) :
    Spaced i before
      { log with finishes := log.finishes ++ [⟨log.acknowledged,
        (s.rest line started).2.1.overruns.drop line.overruns.length⟩] }
      (s.rest line started).1.stage (s.rest line started).2.1
      (.after line.now (s.rest line started).2.2) := by
  generalize entered : (s.rest line started).2.1.overruns.drop line.overruns.length = entry
  constructor
  case recorded =>
    rw [rest_overruns, entered, spaced.recorded]
    simp
  case dated =>
    intro finish member
    rcases List.mem_append.mp member with member | last
    · exact spaced.dated finish member
    · rw [List.mem_singleton.mp last, now]
      rfl
  case warned =>
    intro r a e warnings lasted exact
    rcases lasted.at_finish count began now with ⟨before, _⟩ | ⟨rfl, start, now, rfl⟩
    · exact spaced.warned r a e warnings before exact
    · exact rest_warns length start now exact entered
  case follows =>
    intro r a e warnings lasted exact x next
    have within : r + 1 < log.starts.length := (List.getElem?_eq_some_iff.mp next).1
    rcases lasted.at_finish count began now with ⟨before, _⟩ | ⟨rfl, _⟩
    · exact spaced.follows r a e warnings before exact x next
    · omega
  case due =>
    intro r a e warnings lasted exact last
    rcases lasted.at_finish count began now with ⟨_, ended⟩ | ⟨rfl, start, now, rfl⟩
    · simp only at last
      omega
    · obtain ⟨rests, due⟩ := rest_due length start now exact
      exact ⟨.inl rests, due⟩

/-- A step begins a round, goes on with it or ends it. -/
theorem step_spaced (requests : round s.devices ≠ []) (length : s.interval.value? = some i)
    (stands : Stands log line .running s.stage)
    (spaced : Spaced i before log s.stage line .running) :
    Stands (log.step s line (s.step line).2.1) (s.step line).2.1
        (.after line.now (s.step line).2.2) (s.step line).1.stage ∧
      Spaced i before (log.step s line (s.step line).2.1) (s.step line).1.stage (s.step line).2.1
        (.after line.now (s.step line).2.2) := by
  obtain ⟨devices, interval, text, stage⟩ := s
  cases stage with
  | starting =>
    have even : log.finishes.length = log.starts.length := stands
    refine ⟨⟨?_, List.getLast?_concat, fun none => absurd none requests⟩, spaced.begins even _ _⟩
    change (log.starts ++ [line.now]).length = log.finishes.length + 1
    rw [List.length_append, List.length_singleton, even]
  | queueing rest count started =>
    obtain ⟨more, began, put⟩ := stands
    cases rest with
    | nil =>
      obtain ⟨_, outstanding⟩ := put rfl
      refine ⟨⟨more, began, .inl rfl, fun none => ?_⟩, spaced.congr rfl rfl ?_ ?_⟩
      · exact absurd none (Nat.ne_of_gt outstanding)
      · exact Link.recorded_none line.link rfl
      · simp
    | cons request rest =>
      unfold Scheduler.step
      simp only
      split
      · exact ⟨⟨more, began, nofun⟩, spaced.congr rfl rfl rfl (by simp)⟩
      · refine ⟨⟨more, began, fun _ => ⟨rfl, Nat.succ_pos _⟩⟩, spaced.congr rfl rfl ?_ (by simp)⟩
        exact Link.recorded_none line.link rfl
  | joining started =>
    obtain ⟨more, began, _, now⟩ := stands
    unfold Scheduler.step Log.step
    simp only
    split
    · rename_i none
      refine ⟨?_, spaced.ends more began (now none) length⟩
      have even (finish : Finish) : (log.finishes ++ [finish]).length = log.starts.length := by
        rw [List.length_append, List.length_singleton, more]
      rcases rest_stage ⟨devices, interval, text, .joining started⟩ line started with rests | fails
      · rw [rests]
        exact even _
      · rw [fails]
        exact even _
    · rename_i some
      exact ⟨⟨more, began, .inr rfl, fun none => absurd none some⟩,
        spaced.congr rfl rfl rfl (by simp)⟩
  | resting => exact ⟨stands, spaced.congr rfl rfl rfl fun time _ due => ⟨.inr rfl, due⟩⟩
  | failed f => exact ⟨stands, spaced.congr rfl rfl rfl (by simp)⟩
  | cancelled => exact ⟨stands, spaced.congr rfl rfl rfl (by simp)⟩

/-- While the scheduler is paused, others bring it no nearer to the end of its round than by an
acknowledgement, and the time is kept at which that happens. -/
theorem Stands.others (stands : Stands log line turn stage) (paused : turn ≠ .running)
    (starts : log'.starts = log.starts) (finishes : log'.finishes = log.finishes)
    (done : ∀ started, stage = .joining started → line'.requests.unacknowledged = 0 →
      line.requests.unacknowledged = 0 ∧ line'.now = line.now ∧ log'.acknowledged = log.acknowledged ∨
        log'.acknowledged = some line'.now) : Stands log' line' turn stage := by
  cases stage with
  | queueing rest count started =>
    obtain ⟨more, began, put⟩ := stands
    rw [Stands, starts, finishes]
    exact ⟨more, began, fun none => absurd (put none).1 paused⟩
  | joining started =>
    obtain ⟨more, began, place, now⟩ := stands
    rw [Stands, starts, finishes]
    refine ⟨more, began, place, fun none => ?_⟩
    rcases done started rfl none with ⟨before, still, same⟩ | entered
    · rw [same, still]
      exact now before
    · exact entered
  | _ =>
    change log'.finishes.length = log'.starts.length
    rw [starts, finishes]
    exact stands

theorem take_unacknowledged {channel left : Channel (Option Request)} {item : Option Request}
    (taken : channel.take? = some (item, left)) : left.unacknowledged = channel.unacknowledged := by
  unfold Channel.take? at taken
  split at taken <;> cases taken
  rfl

/-- A scheduler that was to be let run goes on with its round, or begins one that is due. -/
theorem Kept.resume (kept : Kept devices interval i before log s line turn)
    (due : turn.Due line.now) : Kept devices interval i before log s line .running := by
  obtain ⟨devices, interval, stands, spaced⟩ := kept
  refine ⟨devices, interval, ?_, spaced.congr rfl rfl rfl fun time between next => ⟨between, ?_⟩⟩
  · generalize s.stage = stage at stands
    cases stage with
    | queueing rest count started =>
      obtain ⟨more, began, put⟩ := stands
      exact ⟨more, began, fun none => absurd (put none).1 due.paused⟩
    | joining started =>
      obtain ⟨more, began, _, now⟩ := stands
      exact ⟨more, began, .inl rfl, now⟩
    | _ => exact stands
  · cases turn with
    | asleep deadline => exact Binary64.value_of_le_le next.1 next.2 due
    | ready => exact next
    | running => exact next
    | waiting => exact next.elim
    | gone => exact next.elim

/-- Others leave the rounds that are over alone, and what is due stays due. -/
theorem Kept.others (kept : Kept devices interval i before log s line turn)
    (paused : turn ≠ .running) (starts : log'.starts = log.starts)
    (finishes : log'.finishes = log.finishes) (overruns : line'.overruns = line.overruns)
    (due : ∀ time, DueAt line.now time turn → DueAt line'.now time turn)
    (done : ∀ started, s.stage = .joining started → line'.requests.unacknowledged = 0 →
      line.requests.unacknowledged = 0 ∧ line'.now = line.now ∧ log'.acknowledged = log.acknowledged ∨
        log'.acknowledged = some line'.now) :
    Kept devices interval i before log' s line' turn :=
  ⟨kept.devices, kept.interval, kept.stands.others paused starts finishes done,
    kept.spaced.congr starts finishes overruns fun time between next => ⟨between, due time next⟩⟩

/-- The clock does not move with all of the round acknowledged, nor past what is due. -/
theorem Kept.clock {now : Binary64} (kept : Kept devices interval i before log s line turn)
    (lets : Lets s line now turn) :
    Kept devices interval i before log s (line.setNow now) turn := by
  have paused : turn ≠ .running := by
    rintro rfl
    exact lets
  refine kept.others paused rfl rfl rfl (fun time next => ?_) fun started joining none => ?_
  · cases turn with
    | asleep deadline => exact ⟨next.1, lets⟩
    | ready => exact lets.elim
    | running => exact lets.elim
    | waiting => exact next.elim
    | gone => exact next.elim
  · have stands := kept.stands
    rw [joining] at stands
    obtain ⟨_, _, place, _⟩ := stands
    obtain rfl := place.resolve_left paused
    have waits : s.awake line = false := lets
    rw [awake, joining] at waits
    exact absurd none (beq_eq_false_iff_ne.mp waits)

/-- In all of a run the rounds keep their distance. -/
theorem Timed.kept (requests : round devices ≠ []) (length : interval.value? = some i)
    (timed : Timed (make devices interval text) line₀ log s line turn) :
    Kept devices interval i line₀.overruns log s line turn := by
  induction timed with
  | start =>
    refine ⟨rfl, rfl, rfl, (List.append_nil _).symm, nofun, ?_, ?_, ?_⟩
    all_goals
      rintro r a e warnings ⟨⟨x, start, _⟩, _⟩
      cases start
  | resume _ due ih => exact ih.resume due
  | @step log s line timed ih =>
    obtain ⟨rfl, rfl, stands, spaced⟩ := ih
    have now : (s.step line).2.1.now = line.now := (step_effect s line).now
    obtain ⟨stands', spaced'⟩ := step_spaced requests length stands spaced
    rw [now]
    exact ⟨step_devices s line, s.step_interval line, stands', spaced'⟩
  | take item left timed paused taken ih =>
    refine ih.others paused rfl rfl rfl (fun _ => id) fun _ _ none => .inl ⟨?_, rfl, rfl⟩
    exact (take_unacknowledged taken).symm.trans none
  | acknowledge timed paused outstanding ih =>
    exact ih.others paused rfl rfl rfl (fun _ => id) fun _ _ _ => .inr rfl
  | aside timed paused around ih =>
    refine ih.others paused rfl rfl around.overruns (fun _ next => around.now ▸ next) ?_
    exact fun _ _ none => .inl ⟨around.requests ▸ none, around.now, rfl⟩
  | clock now timed lets ih => exact ih.clock lets

/-- Rounds that are not longer than the interval start exactly so many intervals after the first of
them. -/
def Steady (i : ℚ) (log : Log) : Prop :=
  ∀ r n first x a, log.starts[r]? = some first → first.value? = some a →
    (∀ k < n, ∃ b e warnings, log.Lasted (r + k) b e warnings ∧ Exact i b e ∧ e - b ≤ i) →
    log.starts[r + n]? = some x → x.value? = some (a + n * i)

theorem Spaced.steady (spaced : Spaced i before log stage line turn) : Steady i log := by
  intro r n first x a start value short reached
  induction n generalizing x with
  | zero =>
    rw [Nat.add_zero, start] at reached
    cases reached
    rw [value, Nat.cast_zero, zero_mul, add_zero]
  | succ n ih =>
    obtain ⟨b, e, warnings, lasted, exact, fits⟩ := short n (Nat.lt_succ_self n)
    obtain ⟨y, started, begins⟩ := lasted.start
    have same := ih y (fun k less => short k (Nat.lt_succ_of_lt less)) started
    rw [begins] at same
    obtain rfl := Option.some.inj same
    have next := spaced.follows (r + n) _ e warnings lasted exact x reached
    have early : e ≤ a + n * i + i := by linarith
    rw [next, max_eq_left early, Nat.cast_succ]
    congr 1
    ring

/-- Whoever takes the requests and however late they are acknowledged, each round starts when the
interval since the start of the one before is over, or as soon as that one is. -/
theorem Timed.rounds_keep_distance (requests : round devices ≠ []) (length : interval.value? = some i)
    (timed : Timed (make devices interval text) line₀ log s line turn) :
    Spaced i line₀.overruns log s.stage line turn ∧ Steady i log :=
  have spaced := (timed.kept requests length).spaced
  ⟨spaced, spaced.steady⟩

/-- A worker is busy for a second with each of two requests, and for four with each of the next ones:
the second round starts after five seconds, and the third after eight more. -/
theorem Timed.pair_keeps_distance :
    let link := pairLine.link
    let last := (Loop.iterate Bench.tasks none 60
      (.start (Bench.initial pair 5 "5" 1 [1, 1, 4, 4] link) [.scheduler, .worker])).shared
    round pair ≠ [] ∧ (5 : Number).value? = some 5 ∧
      (last.line.link.journal.reverse.filter fun entry => entry.event.queued?.isSome).map (·.time) =
        [0, 0, 5, 5, 13, 13].map .ofInt ∧
      ∃ log turn, Timed (make pair 5 "5") (.make link 1 0 0) log last.scheduler last.line turn ∧
        Spaced 5 (Line.make link 1 0 0).overruns log last.scheduler.stage last.line turn ∧
        Steady 5 log := by
  intro link last
  have requests : round pair ≠ [] := by decide +kernel
  have length : (5 : Number).value? = some 5 := rfl
  have start : Binary64.zero ≤ link.now := ⟨rfl, rfl, rfl⟩
  obtain ⟨turn, ⟨log, timed⟩, _⟩ := Bench.iterate_reaches start [1, 1, 4, 4] none 60
  exact ⟨requests, length, by decide +kernel, log, turn, timed,
    Timed.rounds_keep_distance requests length timed⟩

end MeterPolling.Scheduler
