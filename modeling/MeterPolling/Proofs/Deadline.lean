import Mathlib.Data.List.Perm.Basic
import MeterPolling.Proofs.Binary64
import MeterPolling.Proofs.Loop
/-!
The deadlines of a loop. No task comes to be in a loop twice, and where no task sleeps for less than
no time, no deadline is ever in the past; so the clock, which moves from one deadline to the next,
does not go back.
-/
namespace MeterPolling.Loop

variable {τ σ : Type} {sys : Tasks τ σ} {loop next : Loop τ σ}

/-! ## Where a task comes to be when it has run -/

/-- A task that has run is paused as it asked to be. -/
def Parks (sys : Tasks τ σ) (task : τ) (s : σ) (p : Paused τ) : Prop :=
  p.task = task ∧ match (sys.step task s).2 with
    | .sleeps delay => p.deadline = some (sys.now (sys.step task s).1 + delay)
    | .waits => p.deadline = none
    | _ => False

/-- After a task has run, it runs on only if it goes on, and whoever is ready or paused was so
before, or is that task, or was woken. -/
structure After (sys : Tasks τ σ) (task : τ) (loop next : Loop τ σ) : Prop where
  running : next.running = if (sys.step task loop.shared).2 = .continues then some task else none
  ready : ∀ other ∈ next.ready, other ∈ loop.ready ∨
    other = task ∧ (sys.step task loop.shared).2 = .yields ∨
    ∃ p, (p ∈ loop.paused ∨ Parks sys task loop.shared p) ∧ p.task = other ∧
      sys.awake other next.shared = true
  paused : ∀ p ∈ next.paused, p ∈ loop.paused ∨ Parks sys task loop.shared p

theorem wake_ready {other : τ} (member : other ∈ (wake sys loop).ready) :
    other ∈ loop.ready ∨
      ∃ p ∈ loop.paused, p.task = other ∧ sys.awake other loop.shared = true := by
  unfold wake at member
  rw [List.partition_eq_filter_filter] at member
  rcases List.mem_append.mp member with before | woken
  · exact .inl before
  · obtain ⟨p, awake, rfl⟩ := List.mem_map.mp woken
    obtain ⟨was, awake⟩ := List.mem_filter.mp awake
    exact .inr ⟨p, was, rfl, awake⟩

theorem wake_paused {p : Paused τ} (member : p ∈ (wake sys loop).paused) : p ∈ loop.paused := by
  unfold wake at member
  rw [List.partition_eq_filter_filter] at member
  exact (List.mem_filter.mp member).1

/-- The loop as a task leaves it when it pauses, with nobody woken yet. -/
def leave (sys : Tasks τ σ) (task : τ) (loop : Loop τ σ) : Loop τ σ :=
  let (shared, pause) := sys.step task loop.shared
  let loop := { loop with shared := shared, running := none }
  match pause with
  | .continues => { loop with running := some task }
  | .yields => { loop with ready := loop.ready ++ [task] }
  | .sleeps delay => { loop with paused := loop.paused ++ [⟨task, some (sys.now shared + delay)⟩] }
  | .waits => { loop with paused := loop.paused ++ [⟨task, none⟩] }
  | .ends => loop

theorem runTask_eq (sys : Tasks τ σ) (task : τ) (loop : Loop τ σ) :
    runTask sys task loop = wake sys (leave sys task loop) := rfl

theorem leave_ends {task : τ} (ends : (sys.step task loop.shared).2 = .ends) :
    leave sys task loop =
      { loop with shared := (sys.step task loop.shared).1, running := none } := by
  unfold leave
  generalize sys.step task loop.shared = stepped at ends ⊢
  obtain ⟨shared, pause⟩ := stepped
  cases ends
  rfl

theorem leave_waits {task : τ} (waits : (sys.step task loop.shared).2 = .waits) :
    leave sys task loop =
      { loop with
        shared := (sys.step task loop.shared).1
        running := none
        paused := loop.paused ++ [⟨task, none⟩] } := by
  unfold leave
  generalize sys.step task loop.shared = stepped at waits ⊢
  obtain ⟨shared, pause⟩ := stepped
  cases waits
  rfl

theorem leave_ready {task other : τ} (member : other ∈ (leave sys task loop).ready) :
    other ∈ loop.ready ∨ other = task ∧ (sys.step task loop.shared).2 = .yields := by
  unfold leave at member
  generalize sys.step task loop.shared = stepped at member ⊢
  obtain ⟨shared, pause⟩ := stepped
  cases pause with
  | yields =>
    rcases List.mem_append.mp member with before | new
    · exact .inl before
    · exact .inr ⟨List.mem_singleton.mp new, rfl⟩
  | _ => exact .inl member

theorem leave_paused {task : τ} {p : Paused τ} (member : p ∈ (leave sys task loop).paused) :
    p ∈ loop.paused ∨ Parks sys task loop.shared p := by
  unfold leave at member
  unfold Parks
  generalize sys.step task loop.shared = stepped at member ⊢
  obtain ⟨shared, pause⟩ := stepped
  cases pause with
  | sleeps delay =>
    rcases List.mem_append.mp member with before | new
    · exact .inl before
    · rw [List.mem_singleton.mp new]
      exact .inr ⟨rfl, rfl⟩
  | waits =>
    rcases List.mem_append.mp member with before | new
    · exact .inl before
    · rw [List.mem_singleton.mp new]
      exact .inr ⟨rfl, rfl⟩
  | _ => exact .inl member

theorem runTask_after (sys : Tasks τ σ) (task : τ) (loop : Loop τ σ) :
    After sys task loop (runTask sys task loop) := by
  constructor
  case running =>
    unfold runTask wake
    obtain ⟨shared, pause⟩ := sys.step task loop.shared
    cases pause <;> rfl
  case ready =>
    intro other member
    rcases wake_ready member with left | ⟨p, left, same, awake⟩
    · exact (leave_ready left).imp_right .inl
    · exact .inr (.inr ⟨p, leave_paused left, same, awake⟩)
  case paused => exact fun p member => leave_paused (wake_paused member)

/-! ## No task is doubled -/

def tasks (loop : Loop τ σ) : List τ :=
  loop.running.toList ++ (loop.ready ++ loop.paused.map (·.task))

theorem partition_tasks (paused : List (Paused τ)) (due : Paused τ → Bool) :
    ((paused.filter due).map (·.task) ++ (paused.filter fun p => !due p).map (·.task)).Perm
      (paused.map (·.task)) := by
  rw [← List.map_append]
  exact (List.filter_append_perm due paused).map _

theorem wake_tasks (sys : Tasks τ σ) (loop : Loop τ σ) : (wake sys loop).tasks.Perm loop.tasks := by
  unfold wake tasks
  rw [List.partition_eq_filter_filter]
  simp only [List.append_assoc]
  refine .append_left _ (.append_left _ ?_)
  exact partition_tasks loop.paused fun p => sys.awake p.task loop.shared

theorem leave_tasks {task : τ} (sys : Tasks τ σ) (running : loop.running = some task) :
    (leave sys task loop).tasks.Perm loop.tasks ∨
      (task :: (leave sys task loop).tasks).Perm loop.tasks := by
  have before : loop.tasks = task :: (loop.ready ++ loop.paused.map (·.task)) := by
    rw [tasks, running]
    rfl
  have parked (p : Paused τ) (same : p.task = task) :
      (loop.ready ++ (loop.paused ++ [p]).map (·.task)).Perm
        (task :: (loop.ready ++ loop.paused.map (·.task))) := by
    rw [List.map_append, List.map_singleton, same, ← List.append_assoc]
    exact List.perm_append_singleton _ _
  unfold leave
  rw [before]
  obtain ⟨shared, pause⟩ := sys.step task loop.shared
  cases pause with
  | continues => exact .inl (.refl _)
  | yields =>
    simp only [tasks, Option.toList_none, List.nil_append, List.append_assoc]
    exact .inl List.perm_middle
  | sleeps delay => exact .inl (parked ⟨task, some (sys.now shared + delay)⟩ rfl)
  | waits => exact .inl (parked ⟨task, none⟩ rfl)
  | ends => exact .inr (.refl _)

theorem runTask_tasks {task : τ} (sys : Tasks τ σ) (running : loop.running = some task) :
    (runTask sys task loop).tasks.Perm loop.tasks ∨
      (task :: (runTask sys task loop).tasks).Perm loop.tasks := by
  have woken := wake_tasks sys (leave sys task loop)
  rw [← runTask_eq] at woken
  exact (leave_tasks sys running).imp woken.trans (woken.cons task).trans

theorem Step.nodup (step : Step sys loop next) (once : loop.tasks.Nodup) : next.tasks.Nodup := by
  cases step with
  | run task running =>
    rcases runTask_tasks sys running with same | left
    · exact same.nodup_iff.mpr once
    · exact (left.nodup_iff.mpr once).of_cons
  | pick task rest running ready =>
    unfold tasks at once ⊢
    rw [running, ready] at once
    exact once
  | wait deadline running ready earliest =>
    unfold tasks at once
    rw [running, ready] at once
    unfold moveClock tasks
    rw [List.partition_eq_filter_filter]
    simp only [running]
    exact (partition_tasks loop.paused _).nodup_iff.mpr once

/-- Where what a task waits for is its own matter, whoever is paused without a deadline waits for
just that. -/
theorem Step.parked {W : τ → σ → Prop}
    (waits : ∀ task, loop.running = some task → (sys.step task loop.shared).2 = .waits →
      W task (sys.step task loop.shared).1)
    (others : ∀ task other s, other ≠ task → W other s → W other (sys.step task s).1)
    (clock : ∀ now task s, W task s → W task (sys.setNow now s)) (step : Step sys loop next)
    (once : loop.tasks.Nodup)
    (parked : ∀ p ∈ loop.paused, p.deadline = none → W p.task loop.shared) :
    ∀ p ∈ next.paused, p.deadline = none → W p.task next.shared := by
  cases step with
  | run task running =>
    rw [runTask_shared]
    intro p member untimed
    rcases (runTask_after sys task loop).paused p member with before | ⟨rfl, parks⟩
    · -- the task that runs is not paused as well
      unfold tasks at once
      rw [running] at once
      have different : p.task ≠ task := by
        rintro rfl
        have twice : p.task ∈ loop.ready ++ loop.paused.map (·.task) :=
          List.mem_append_right _ (List.mem_map_of_mem before)
        exact (List.nodup_cons.mp once).1 twice
      exact others task p.task loop.shared different (parked p before untimed)
    · cases pause : (sys.step p.task loop.shared).2 with
      | waits => exact waits p.task running pause
      | sleeps delay =>
        rw [pause] at parks
        cases untimed.symm.trans parks
      | _ =>
        rw [pause] at parks
        cases parks
  | pick task rest running ready => exact parked
  | wait deadline running ready earliest =>
    intro p member untimed
    unfold moveClock at member ⊢
    rw [List.partition_eq_filter_filter] at member
    exact clock deadline p.task loop.shared (parked p (List.mem_filter.mp member).1 untimed)

/-! ## No deadline is in the past -/

theorem earlier_cases (deadline other : Option Binary64) :
    earlier deadline other = deadline ∨ earlier deadline other = other := by
  unfold earlier
  split
  · exact .inr rfl
  · split
    · exact .inr rfl
    · exact .inl rfl
  · exact .inl rfl

theorem earliest_mem {paused : List (Paused τ)} {deadline : Binary64}
    (earliest : earliest? paused = some deadline) : ∃ p ∈ paused, p.deadline = some deadline := by
  -- the best deadline so far is that of a task, unless there was none
  have fold (paused : List (Paused τ)) (best : Option Binary64) (d : Binary64)
      (found : paused.foldl (fun best p => earlier best p.deadline) best = some d) :
      best = some d ∨ ∃ p ∈ paused, p.deadline = some d := by
    induction paused generalizing best with
    | nil => exact .inl found
    | cons p paused ih =>
      rw [List.foldl_cons] at found
      rcases ih _ found with better | ⟨q, member, same⟩
      · rcases earlier_cases best p.deadline with kept | taken
        · exact .inl (kept.symm.trans better)
        · exact .inr ⟨p, List.mem_cons_self, taken.symm.trans better⟩
      · exact .inr ⟨q, List.mem_cons_of_mem p member, same⟩
  exact (fold paused none deadline earliest).resolve_left (by simp)

/-- Two deadlines that are numbers, or none, of which the earlier one is no later than either. -/
theorem earlier_le {best other : Option Binary64} (first : ∀ b ∈ best, b.isNaN = false)
    (second : ∀ d ∈ other, d.isNaN = false) :
    best = none ∧ other = none ∨ ∃ x, earlier best other = some x ∧ x.isNaN = false ∧
      (∀ b ∈ best, x ≤ b) ∧ ∀ d ∈ other, x ≤ d := by
  cases best with
  | none =>
    cases other with
    | none => exact .inl ⟨rfl, rfl⟩
    | some d =>
      have number := second d rfl
      exact .inr ⟨d, rfl, number, nofun, by simpa using Binary64.le_refl number⟩
  | some b =>
    have number := first b rfl
    have same := Binary64.le_refl number
    refine .inr ?_
    cases other with
    | none => exact ⟨b, rfl, number, by simpa using same, nofun⟩
    | some d =>
      have number' := second d rfl
      unfold earlier
      simp only
      cases order : d.less b with
      | true =>
        have before := Binary64.le_of_less order
        exact ⟨d, rfl, number', by simpa using before, by simpa using Binary64.le_refl number'⟩
      | false => exact ⟨b, rfl, number, by simpa using same, by simpa using ⟨number, number', order⟩⟩

/-- The earliest deadline is no later than any other. -/
theorem earliest_le {paused : List (Paused τ)} {deadline : Binary64}
    (numbers : ∀ p ∈ paused, ∀ d ∈ p.deadline, d.isNaN = false)
    (earliest : earliest? paused = some deadline) :
    ∀ p ∈ paused, ∀ d ∈ p.deadline, deadline ≤ d := by
  -- what is found in the end is no later than the best deadline so far
  have fold (paused : List (Paused τ)) (best : Option Binary64)
      (numbers : ∀ p ∈ paused, ∀ d ∈ p.deadline, d.isNaN = false)
      (number : ∀ b ∈ best, b.isNaN = false)
      (found : paused.foldl (fun best p => earlier best p.deadline) best = some deadline) :
      (∀ b ∈ best, deadline ≤ b) ∧ ∀ p ∈ paused, ∀ d ∈ p.deadline, deadline ≤ d := by
    induction paused generalizing best with
    | nil =>
      obtain rfl : best = some deadline := found
      exact ⟨fun b same => Option.some.inj same ▸ Binary64.le_refl (number deadline rfl), nofun⟩
    | cons p paused ih =>
      rw [List.foldl_cons] at found
      obtain ⟨own, others⟩ := List.forall_mem_cons.mp numbers
      rw [List.forall_mem_cons]
      rcases earlier_le number own with ⟨rfl, none⟩ | ⟨x, better, whole, first, second⟩
      · rw [none] at found ⊢
        exact ⟨nofun, nofun, (ih Option.none others nofun found).2⟩
      · rw [better] at found
        obtain ⟨reached, rest⟩ := ih (some x) others (by simpa using whole) found
        have before := reached x rfl
        exact ⟨fun b same => Binary64.le_trans before (first b same),
          fun d same => Binary64.le_trans before (second d same), rest⟩
  exact (fold paused none numbers nofun earliest).2

structure Ahead (sys : Tasks τ σ) (loop : Loop τ σ) : Prop where
  clock : Binary64.zero ≤ sys.now loop.shared
  deadlines : ∀ p ∈ loop.paused, ∀ d, p.deadline = some d → sys.now loop.shared ≤ d

structure Clockwork (sys : Tasks τ σ) : Prop where
  still : ∀ task s, sys.now (sys.step task s).1 = sys.now s
  sets : ∀ now s, sys.now (sys.setNow now s) = now

def Sleeps (sys : Tasks τ σ) (loop : Loop τ σ) : Prop :=
  ∀ task delay, loop.running = some task → (sys.step task loop.shared).2 = .sleeps delay →
    Binary64.zero ≤ delay

theorem runTask_ahead {task : τ} (clockwork : Clockwork sys) (lengths : Sleeps sys loop)
    (running : loop.running = some task) (ahead : Ahead sys loop) :
    Ahead sys (runTask sys task loop) := by
  have still := clockwork.still task loop.shared
  have clock : Binary64.zero ≤ sys.now (sys.step task loop.shared).1 := still ▸ ahead.clock
  rw [← runTask_shared] at still clock
  refine ⟨clock, fun p member d has => ?_⟩
  rcases (runTask_after sys task loop).paused p member with before | ⟨_, parks⟩
  · rw [still]
    exact ahead.deadlines p before d has
  · -- only who sleeps has a deadline
    cases pause : (sys.step task loop.shared).2 with
    | sleeps delay =>
      rw [pause] at parks
      obtain rfl := Option.some.inj (has.symm.trans parks)
      rw [← runTask_shared]
      exact Binary64.le_add clock (lengths task delay running pause)
    | waits =>
      rw [pause] at parks
      cases has.symm.trans parks
    | _ =>
      rw [pause] at parks
      cases parks

theorem Step.ahead (clockwork : Clockwork sys) (lengths : Sleeps sys loop)
    (step : Step sys loop next) (ahead : Ahead sys loop) :
    Ahead sys next ∧ sys.now loop.shared ≤ sys.now next.shared := by
  cases step with
  | run task running =>
    have still := clockwork.still task loop.shared
    refine ⟨runTask_ahead clockwork lengths running ahead, ?_⟩
    rw [runTask_shared, still]
    exact Binary64.le_refl ahead.clock.2.1
  | pick task rest running ready =>
    exact ⟨⟨ahead.clock, ahead.deadlines⟩, Binary64.le_refl ahead.clock.2.1⟩
  | wait deadline running ready earliest =>
    obtain ⟨p, member, has⟩ := earliest_mem earliest
    have later := ahead.deadlines p member deadline has
    unfold moveClock
    rw [List.partition_eq_filter_filter]
    simp only [clockwork.sets]
    refine ⟨⟨?_, fun q left d has' => ?_⟩, later⟩
    · simp only [clockwork.sets]
      exact Binary64.le_trans ahead.clock later
    · -- what stays paused is not due yet
      simp only [clockwork.sets]
      have after := (List.mem_filter.mp left).2
      simp only [Function.comp_apply, has', Option.any_some, Bool.not_not] at after
      exact Binary64.le_of_less after

end MeterPolling.Loop
