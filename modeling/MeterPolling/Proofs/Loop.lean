import MeterPolling.Cooperative
/-!
What a loop of cooperative tasks keeps. A property of the shared state that every step of every task
and every move of the clock preserves holds throughout, in whatever order the tasks come to run. A
paused task never has what it waits for, and a task is only lost by ending.
-/
namespace MeterPolling.Loop

variable {τ σ : Type} {sys : Tasks τ σ} {loop next : Loop τ σ} {alarm : Option Binary64}

/-- The three kinds of a step. The clock moves only when no task runs and none is ready. -/
inductive Step (sys : Tasks τ σ) (loop : Loop τ σ) : Loop τ σ → Prop where
  | run (task : τ) : loop.running = some task → Step sys loop (runTask sys task loop)
  | pick (task : τ) (rest : List τ) : loop.running = none → loop.ready = task :: rest →
      Step sys loop { loop with running := some task, ready := rest }
  | wait (deadline : Binary64) : loop.running = none → loop.ready = [] →
      earliest? loop.paused = some deadline → Step sys loop (moveClock sys deadline loop)

theorem step_of_step? (stepped : step? sys alarm loop = some next) :
    sys.finished loop.shared = false ∧ Step sys loop next := by
  unfold step? at stepped
  split at stepped
  · cases stepped
  · rename_i unfinished
    refine ⟨by simpa using unfinished, ?_⟩
    split at stepped
    · rename_i task running
      cases stepped
      exact .run task running
    · rename_i task rest running ready
      cases stepped
      exact .pick task rest running ready
    · rename_i running ready
      split at stepped
      · cases stepped
      · rename_i deadline earliest
        split at stepped <;> cases stepped
        exact .wait deadline running ready earliest

theorem runTask_shared (sys : Tasks τ σ) (task : τ) (loop : Loop τ σ) :
    (runTask sys task loop).shared = (sys.step task loop.shared).1 := by
  unfold runTask wake
  obtain ⟨shared, pause⟩ := sys.step task loop.shared
  cases pause <;> rfl

/-- What each step of a task and each move of the clock preserves, a step of the loop preserves. -/
theorem Step.shared {P : σ → Prop} (steps : ∀ task s, P s → P (sys.step task s).1)
    (clock : ∀ now s, P s → P (sys.setNow now s)) (step : Step sys loop next)
    (holds : P loop.shared) : P next.shared := by
  cases step with
  | run task running =>
    rw [runTask_shared]
    exact steps task loop.shared holds
  | pick task rest running ready => exact holds
  | wait deadline running ready earliest => exact clock deadline loop.shared holds

theorem iterate_steps {P : Loop τ σ → Prop}
    (preserves : ∀ {loop next}, P loop → step? sys alarm loop = some next → P next) (n : Nat)
    (holds : P loop) : P (iterate sys alarm n loop) := by
  induction n generalizing loop with
  | zero => exact holds
  | succ n ih =>
    unfold iterate
    split
    · exact holds
    · rename_i stepped
      exact ih (preserves holds stepped)

/-- A loop comes to rest when each of its steps takes away of what is left. -/
theorem iterate_rests {P : Loop τ σ → Prop} {left : Loop τ σ → Nat}
    (takes : ∀ {loop next}, P loop → step? sys alarm loop = some next →
      P next ∧ left next < left loop) (n : Nat) (holds : P loop) (enough : left loop ≤ n) :
    step? sys alarm (iterate sys alarm n loop) = none := by
  induction n generalizing loop with
  | zero =>
    unfold iterate
    cases stepped : step? sys alarm loop with
    | none => rfl
    | some next =>
      have taken := (takes holds stepped).2
      omega
  | succ n ih =>
    unfold iterate
    split
    · assumption
    · rename_i stepped
      obtain ⟨holds, taken⟩ := takes holds stepped
      exact ih holds (by omega)

theorem run_shared {P : σ → Prop} (steps : ∀ task s, P s → P (sys.step task s).1)
    (clock : ∀ now s, P s → P (sys.setNow now s)) (holds : P loop.shared) :
    P (loop.run sys alarm).shared :=
  iterate_steps (P := fun loop => P loop.shared)
    (fun holds stepped => (step_of_step? stepped).2.shared steps clock holds) stepLimit holds

/-! ## Where the tasks are -/

/-- No paused task has what it waits for. -/
def Settled (sys : Tasks τ σ) (loop : Loop τ σ) : Prop :=
  ∀ p ∈ loop.paused, sys.awake p.task loop.shared = false

/-- A task is still to run, now or later. -/
def Present (loop : Loop τ σ) (task : τ) : Prop :=
  loop.running = some task ∨ task ∈ loop.ready ∨ ∃ p ∈ loop.paused, p.task = task

structure Idle (loop : Loop τ σ) : Prop where
  running : loop.running = none
  ready : loop.ready = []

/-- Whatever comes to rest before it has finished is idle. -/
theorem idle_of_rest (unfinished : sys.finished loop.shared = false)
    (rests : step? sys alarm loop = none) : Idle loop := by
  unfold step? at rests
  rw [unfinished] at rests
  simp only [Bool.false_eq_true, if_false] at rests
  split at rests
  · cases rests
  · cases rests
  · rename_i running ready
    exact ⟨running, ready⟩

theorem wake_settled (sys : Tasks τ σ) (loop : Loop τ σ) : Settled sys (wake sys loop) := by
  intro p member
  unfold wake at member ⊢
  rw [List.partition_eq_filter_filter] at member
  simpa using (List.mem_filter.mp member).2

theorem wake_present {task : τ} (sys : Tasks τ σ) (present : Present loop task) :
    Present (wake sys loop) task := by
  unfold Present wake
  rw [List.partition_eq_filter_filter]
  rcases present with running | ready | ⟨p, member, rfl⟩
  · exact .inl running
  · exact .inr (.inl (List.mem_append_left _ ready))
  · cases awake : sys.awake p.task loop.shared with
    | true =>
      have woken : p ∈ loop.paused.filter fun p => sys.awake p.task loop.shared :=
        List.mem_filter.mpr ⟨member, awake⟩
      exact .inr (.inl (List.mem_append_right _ (List.mem_map_of_mem woken)))
    | false =>
      refine .inr (.inr ⟨p, List.mem_filter.mpr ⟨member, ?_⟩, rfl⟩)
      simp [awake]

/-- Tasks are woken by what others do, and never by the clock. -/
theorem Step.settled (timeless : ∀ task now s, sys.awake task (sys.setNow now s) = sys.awake task s)
    (step : Step sys loop next) (settled : Settled sys loop) : Settled sys next := by
  cases step with
  | run task running =>
    unfold runTask
    exact wake_settled sys _
  | pick task rest running ready => exact settled
  | wait deadline running ready earliest =>
    -- those that stay paused were paused before, and the clock wakes none of them
    intro p member
    unfold moveClock at member ⊢
    rw [List.partition_eq_filter_filter] at member
    simp only
    rw [timeless]
    exact settled p (List.mem_filter.mp member).1

theorem runTask_self (sys : Tasks τ σ) (task : τ) (loop : Loop τ σ) :
    Present (runTask sys task loop) task ∨ (sys.step task loop.shared).2 = .ends := by
  unfold runTask
  obtain ⟨shared, pause⟩ := sys.step task loop.shared
  cases pause with
  | continues => exact .inl (wake_present sys (.inl rfl))
  | yields => exact .inl (wake_present sys (.inr (.inl (by simp))))
  | sleeps delay =>
    exact .inl (wake_present sys
      (.inr (.inr ⟨_, List.mem_append_right _ List.mem_cons_self, rfl⟩)))
  | waits =>
    exact .inl (wake_present sys
      (.inr (.inr ⟨_, List.mem_append_right _ List.mem_cons_self, rfl⟩)))
  | ends => exact .inr rfl

theorem runTask_other {task other : τ} (sys : Tasks τ σ) (running : loop.running = some task)
    (different : other ≠ task) (present : Present loop other) :
    Present (runTask sys task loop) other := by
  have elsewhere : other ∈ loop.ready ∨ ∃ p ∈ loop.paused, p.task = other := by
    rcases present with same | elsewhere
    · exact absurd (Option.some.inj (same.symm.trans running)) different
    · exact elsewhere
  unfold runTask
  obtain ⟨shared, pause⟩ := sys.step task loop.shared
  apply wake_present
  unfold Present
  rcases elsewhere with ready | ⟨p, member, same⟩
  · cases pause <;> simp [ready]
  · cases pause <;> exact .inr (.inr ⟨p, by simp [member], same⟩)

/-- Who is due becomes ready, and everybody else stays paused. -/
theorem moveClock_present {other : τ} (sys : Tasks τ σ) (deadline : Binary64)
    (paused : ∃ p ∈ loop.paused, p.task = other) : Present (moveClock sys deadline loop) other := by
  obtain ⟨p, member, same⟩ := paused
  unfold Present moveClock
  rw [List.partition_eq_filter_filter]
  cases due : p.deadline.any fun d => !deadline.less d with
  | true =>
    have woken : p ∈ loop.paused.filter fun p => p.deadline.any fun d => !deadline.less d :=
      List.mem_filter.mpr ⟨member, due⟩
    exact .inr (.inl (same ▸ List.mem_map_of_mem woken))
  | false =>
    refine .inr (.inr ⟨p, List.mem_filter.mpr ⟨member, ?_⟩, same⟩)
    simp [due]

/-- Tasks do not get lost. Each is still to run, or it has ended, by whatever tells that it has. -/
theorem Step.present {gone : τ → σ → Prop} {other : τ}
    (ends : ∀ task s, (sys.step task s).2 = .ends → gone task (sys.step task s).1)
    (stays : ∀ task other s, gone other s → gone other (sys.step task s).1)
    (clock : ∀ now other s, gone other s → gone other (sys.setNow now s))
    (step : Step sys loop next) (here : Present loop other ∨ gone other loop.shared) :
    Present next other ∨ gone other next.shared := by
  cases step with
  | run task running =>
    rw [runTask_shared]
    rcases here with present | left
    · -- only the task that runs can leave the loop
      by_cases same : other = task
      · rw [same]
        exact (runTask_self sys task loop).imp_right (ends task loop.shared)
      · exact .inl (runTask_other sys running same present)
    · exact .inr (stays task other loop.shared left)
  | pick task rest running ready =>
    refine here.imp_left fun present => ?_
    rcases present with same | member | paused
    · rw [running] at same
      cases same
    · rw [ready] at member
      rcases List.mem_cons.mp member with rfl | member
      · exact .inl rfl
      · exact .inr (.inl member)
    · exact .inr (.inr paused)
  | wait deadline running ready earliest =>
    refine here.imp (fun present => ?_) (clock deadline other loop.shared)
    rcases present with same | member | ⟨p, member, same⟩
    · rw [running] at same
      cases same
    · rw [ready] at member
      cases member
    · exact moveClock_present sys deadline ⟨p, member, same⟩

/-- Where no task moves the clock itself, it moves only in an idle loop. -/
theorem Step.idle (still : ∀ task s, sys.now (sys.step task s).1 = sys.now s)
    (step : Step sys loop next) (moved : sys.now next.shared ≠ sys.now loop.shared) : Idle loop := by
  cases step with
  | run task running =>
    rw [runTask_shared] at moved
    exact absurd (still task loop.shared) moved
  | pick task rest running ready => exact absurd rfl moved
  | wait deadline running ready earliest => exact ⟨running, ready⟩

/-- In an idle loop a task that is still to run has nothing of what it waits for. -/
theorem idle_asleep {task : τ} (settled : Settled sys loop) (idle : Idle loop)
    (present : Present loop task) : sys.awake task loop.shared = false := by
  rcases present with running | ready | ⟨p, member, rfl⟩
  · rw [idle.running] at running
    cases running
  · rw [idle.ready] at ready
    cases ready
  · exact settled p member

end MeterPolling.Loop
