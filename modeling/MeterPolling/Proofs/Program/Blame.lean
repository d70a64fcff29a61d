import MeterPolling.Proofs.Program.Moves
/-!
What went wrong first, and what the scan, the tasks of polling and their supervisor know of it. The
ending of a scan or of polling fits it: it is the failure that came first, unless there was an
interruption, and it is the interruption when that came first.
-/
namespace MeterPolling

/-! ## A scan -/

namespace Scanner

variable {s : Scanner} {link : Link}

/-- A scan that is bound to fail does so. -/
theorem step_failure {f : Failure} (failed : s.failure? = some f) :
    (s.step link).1.failure? = some f := by
  unfold failure? at failed
  split at failed
  · rename_i stage
    cases failed
    simp [step, stage, failure?]
  · rename_i stage
    cases failed
    simp [step, stage, failure?, fail]
  · cases failed

theorem step_hasEnded (ended : s.hasEnded = true) : (s.step link).1 = s := by
  unfold hasEnded at ended
  split at ended
  case h_4 => cases ended
  all_goals
    rename_i stage
    simp [step, stage]

theorem cancel_cancelled (active : s.hasEnded = false) : (s.cancel link).1.stage = .cancelled := by
  unfold hasEnded at active
  unfold cancel
  cases stage : s.stage <;> simp_all

end Scanner

namespace Program

/-! ## What went wrong first -/

def Blames (p : Polling) (interrupted : Bool) : Option Mishap → Prop
  | none => p.failure = none ∧ p.cancelled = false ∧ interrupted = false
  | some (.failure f) => p.failure = some f
  | some .interruption => p.failure = none ∧ p.cancelled = true ∧ interrupted = true

structure Accounts (s : Scanner) (interrupted : Bool) (mishap : Option Mishap) : Prop where
  uncancelled : interrupted = false → s.stage ≠ .cancelled
  blame : s.stage ≠ .cancelled → mishap = s.failure?.map .failure

structure Fits (ending : Ending) (interrupted : Bool) (mishap : Option Mishap) : Prop where
  uninterrupted : interrupted = false →
    (ending = .done ∧ mishap = none) ∨ ∃ f, mishap = some (.failure f) ∧ ending = .broken f
  cut : mishap = some .interruption → ending = .cut

variable {p : Polling} {scanner : Scanner} {link : Link} {interrupted : Bool}
  {mishap : Option Mishap}

theorem Blames.stepTask (blames : Blames p interrupted mishap) (tended : p.Tended interrupted)
    (task : Polling.Task) :
    Blames (p.stepTask task).1 interrupted
      (mishap.or (((p.stepTask task).1.failed? task).map .failure)) := by
  have acts := Polling.stepTask_acts (tended.known task)
  match mishap, blames with
  | none, ⟨unfailed, untold, uninterrupted⟩ =>
    have failure := acts.failure
    rw [unfailed, Option.none_or] at failure
    cases failed : (p.stepTask task).1.failed? task with
    | none => exact ⟨failure.trans failed, acts.cancelled.trans untold, uninterrupted⟩
    | some f => exact failure.trans failed
  | some (.failure f), failed =>
    have failed : p.failure = some f := failed
    rw [Option.some_or]
    exact acts.failure.trans (by rw [failed, Option.some_or])
  | some .interruption, ⟨unfailed, told, interrupted⟩ =>
    rw [Option.some_or]
    exact ⟨(Polling.stepTask_told told).trans unfailed, acts.cancelled.trans told, interrupted⟩

theorem Blames.stepSupervisor (blames : Blames p interrupted mishap)
    (tended : p.Tended interrupted) : Blames p.stepSupervisor.1 interrupted mishap := by
  match mishap, blames with
  | none, ⟨unfailed, untold, uninterrupted⟩ =>
    have unnoticed : ¬ p.failure.isSome = true := by simp [unfailed]
    -- as nothing went wrong, there is nothing for the supervisor to do
    rcases p.stepSupervisor_cases with same | ⟨_, why⟩ | ⟨_, failed⟩ | ⟨_, ended⟩
    · rw [same]
      exact ⟨unfailed, untold, uninterrupted⟩
    · rcases why with interruption | alerted
      · rw [tended.interruption, uninterrupted] at interruption
        cases interruption
      · exact absurd (tended.alerted alerted) unnoticed
    · exact absurd failed unnoticed
    · have told := tended.reporter (Polling.allEnded_iff.mp ended .readingsReporter)
      rw [untold] at told
      cases told
  | some (.failure f), failed =>
    rcases p.stepSupervisor_cases with same | ⟨same, _⟩ | ⟨same, _⟩ | ⟨same, _⟩ <;>
      (rw [same]; exact failed)
  | some .interruption, ⟨unfailed, told, interrupted⟩ =>
    rcases p.stepSupervisor_cases with same | ⟨same, _⟩ | ⟨same, _⟩ | ⟨same, _⟩ <;> rw [same]
    · exact ⟨unfailed, told, interrupted⟩
    · exact ⟨unfailed, rfl, interrupted⟩
    · exact ⟨unfailed, told, interrupted⟩
    · exact ⟨unfailed, told, interrupted⟩

theorem Blames.halt (blames : Blames p interrupted mishap) :
    Blames p.halt true (mishap.or (some .interruption)) := by
  match mishap, blames with
  | none, ⟨unfailed, _, _⟩ => exact ⟨unfailed, rfl, rfl⟩
  | some (.failure f), failed => exact failed
  | some .interruption, ⟨unfailed, _, _⟩ => exact ⟨unfailed, rfl, rfl⟩

theorem Blames.interrupt (blames : Blames p interrupted mishap) (failed : p.failure.isSome = true) :
    Blames { p with interrupted := true } true (mishap.or (some .interruption)) := by
  match mishap, blames with
  | none, ⟨unfailed, _, _⟩ =>
    rw [unfailed] at failed
    cases failed
  | some (.failure f), failed => exact failed
  | some .interruption, ⟨unfailed, told, _⟩ => exact ⟨unfailed, told, rfl⟩

theorem Blames.congr {next : Polling} (blames : Blames p interrupted mishap)
    (failure : next.failure = p.failure) (cancelled : next.cancelled = p.cancelled) :
    Blames next interrupted mishap := by
  match mishap, blames with
  | none, ⟨unfailed, untold, uninterrupted⟩ =>
    exact ⟨failure.trans unfailed, cancelled.trans untold, uninterrupted⟩
  | some (.failure f), failed => exact failure.trans failed
  | some .interruption, ⟨unfailed, told, interrupted⟩ =>
    exact ⟨failure.trans unfailed, cancelled.trans told, interrupted⟩

/-- Once all tasks have ended something went wrong. -/
theorem Blames.hurt (blames : Blames p interrupted mishap) (told : p.cancelled = true) :
    mishap.isSome = true := by
  match mishap, blames with
  | none, ⟨_, untold, _⟩ =>
    rw [untold] at told
    cases told
  | some _, _ => rfl

theorem Blames.fits (blames : Blames p interrupted mishap) (told : p.cancelled = true) :
    Fits (pollEnding p) interrupted mishap := by
  match mishap, blames with
  | none, ⟨_, untold, _⟩ =>
    rw [untold] at told
    cases told
  | some (.failure f), failed =>
    have failed : p.failure = some f := failed
    exact ⟨fun _ => .inr ⟨f, rfl, by rw [pollEnding, failed]⟩, fun cut => by cases cut⟩
  | some .interruption, ⟨unfailed, _, interrupted⟩ =>
    refine ⟨fun uninterrupted => ?_, fun _ => by rw [pollEnding, unfailed]⟩
    rw [interrupted] at uninterrupted
    cases uninterrupted

theorem Accounts.step (accounts : Accounts scanner interrupted mishap) (link : Link) :
    Accounts (scanner.step link).1 interrupted
      (mishap.or ((scanner.step link).1.failure?.map .failure)) := by
  by_cases cancelled : scanner.stage = .cancelled
  · have ended : scanner.hasEnded = true := by simp [Scanner.hasEnded, cancelled]
    rw [Scanner.step_hasEnded ended]
    exact ⟨accounts.uncancelled, fun uncancelled => absurd cancelled uncancelled⟩
  · refine ⟨fun _ => Scanner.step_uncancelled cancelled, fun _ => ?_⟩
    rw [accounts.blame cancelled]
    cases failed : scanner.failure? with
    | none => rfl
    | some f => rw [Scanner.step_failure failed, Option.map_some, Option.some_or]

theorem Accounts.fits (accounts : Accounts scanner interrupted mishap)
    (ended : scanner.hasEnded = true) : Fits (scanEnding scanner) interrupted mishap := by
  obtain ⟨uncancelled, blame⟩ := accounts
  unfold Scanner.hasEnded at ended
  cases stage : scanner.stage with
  | done =>
    have mishap := blame (by simp [stage])
    simp only [Scanner.failure?, stage, Option.map_none] at mishap
    rw [mishap]
    exact ⟨fun _ => .inl ⟨by simp [scanEnding, stage], rfl⟩, fun cut => by cases cut⟩
  | failed f =>
    have mishap := blame (by simp [stage])
    simp only [Scanner.failure?, stage, Option.map_some] at mishap
    rw [mishap]
    exact ⟨fun _ => .inr ⟨f, rfl, by simp [scanEnding, stage]⟩, fun cut => by cases cut⟩
  | cancelled =>
    exact ⟨fun uninterrupted => absurd stage (uncancelled uninterrupted),
      fun _ => by simp [scanEnding, stage]⟩
  | _ => simp [stage] at ended

theorem accounts_cancel (active : scanner.hasEnded = false) (link : Link)
    (mishap : Option Mishap) : Accounts (scanner.cancel link).1 true mishap where
  uncancelled uninterrupted := by cases uninterrupted
  blame uncancelled := absurd (Scanner.cancel_cancelled active) uncancelled

theorem fits_broken (f : Failure) (interrupted : Bool) :
    Fits (.broken f) interrupted (some (.failure f)) :=
  ⟨fun _ => .inr ⟨f, rfl, rfl⟩, fun cut => by cases cut⟩

theorem fits_cut (mishap : Option Mishap) : Fits .cut true mishap :=
  ⟨(nomatch ·), fun _ => rfl⟩

end Program

end MeterPolling
