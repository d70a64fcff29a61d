import MeterPolling.Scheduler
import MeterPolling.Proofs.Journal
/-!
How far a scheduler is in its rounds. All that it ever puts is whole rounds, one after the other, and
a first part of the next one; and it passes from one round to the next only when nothing is left to
be acknowledged. Nothing is assumed of whoever takes the requests.
-/
namespace MeterPolling.Scheduler

def rounds (devices : List (Int × Producer)) (k : Nat) : List Request :=
  (List.replicate k (round devices)).flatten

variable {devices : List (Int × Producer)} {k : Nat} {s : Scheduler} {line next : Line}
  {queued : List Request} {sizes : List Nat} {stage : Stage}

theorem rounds_succ (devices : List (Int × Producer)) (k : Nat) :
    rounds devices (k + 1) = rounds devices k ++ round devices := by
  simp [rounds, List.replicate_succ']

theorem rounds_length (devices : List (Int × Producer)) (k : Nat) :
    (rounds devices k).length = (round devices).length * k := by
  simp [rounds, Nat.mul_comm]

/-- Where a scheduler stands in the round after `k` others: what it has put, and the sizes of rounds
that it has reported. -/
def Standing (devices : List (Int × Producer)) (k : Nat) (queued : List Request)
    (sizes : List Nat) : Stage → Prop
  | .starting | .resting =>
    queued = rounds devices k ∧ sizes = List.replicate k (round devices).length
  | .queueing rest count _ =>
    ∃ done, round devices = done ++ rest ∧ count = done.length ∧
      queued = rounds devices k ++ done ∧ sizes = List.replicate k (round devices).length
  | .joining _ =>
    queued = rounds devices (k + 1) ∧ sizes = List.replicate (k + 1) (round devices).length
  | .failed _ | .cancelled =>
    ∃ done, done <+: round devices ∧ queued = rounds devices k ++ done ∧
      ∀ size ∈ sizes, size = (round devices).length

theorem Standing.part (stands : Standing devices k queued sizes stage) :
    ∃ done, done <+: round devices ∧ queued = rounds devices k ++ done := by
  cases stage with
  | starting => exact ⟨[], List.nil_prefix, by simp [stands.1]⟩
  | resting => exact ⟨[], List.nil_prefix, by simp [stands.1]⟩
  | queueing rest count started =>
    obtain ⟨done, split, _, whole, _⟩ := stands
    exact ⟨done, split ▸ List.prefix_append _ _, whole⟩
  | joining started => exact ⟨round devices, List.prefix_refl _, by rw [stands.1, rounds_succ]⟩
  | failed f =>
    obtain ⟨done, part, whole, _⟩ := stands
    exact ⟨done, part, whole⟩
  | cancelled =>
    obtain ⟨done, part, whole, _⟩ := stands
    exact ⟨done, part, whole⟩

theorem Standing.reported (stands : Standing devices k queued sizes stage) :
    ∀ size ∈ sizes, size = (round devices).length := by
  cases stage with
  | starting => exact stands.2 ▸ fun _ => List.eq_of_mem_replicate
  | resting => exact stands.2 ▸ fun _ => List.eq_of_mem_replicate
  | queueing rest count started =>
    obtain ⟨_, _, _, _, sizes⟩ := stands
    exact sizes ▸ fun _ => List.eq_of_mem_replicate
  | joining started => exact stands.2 ▸ fun _ => List.eq_of_mem_replicate
  | failed f =>
    obtain ⟨_, _, _, sizes⟩ := stands
    exact sizes
  | cancelled =>
    obtain ⟨_, _, _, sizes⟩ := stands
    exact sizes

/-- All that a scheduler does to the line: it notes something, or it puts a request for which there
is room. -/
inductive Effect (line : Line) : Line → Prop where
  | nothing : Effect line line
  | queued (count : Nat) : Effect line (line.note (.roundQueued count))
  | overran (elapsed : Binary64) (interval : String) :
      Effect line (line.note (.roundOverran elapsed interval))
  | put (request : Request) : line.requests.isFull = false → Effect line (line.queue request)

theorem rest_line (s : Scheduler) (line : Line) (started : Binary64) :
    (s.rest line started).2.1 = line ∨
      ∃ elapsed interval, (s.rest line started).2.1 = line.note (.roundOverran elapsed interval) := by
  unfold rest
  simp only
  split <;> split
  · exact .inr ⟨_, _, rfl⟩
  · exact .inl rfl
  · exact .inr ⟨_, _, rfl⟩
  · exact .inl rfl

theorem rest_stage (s : Scheduler) (line : Line) (started : Binary64) :
    (s.rest line started).1.stage = .resting ∨
      (s.rest line started).1.stage = .failed .tooLarge := by
  unfold rest
  simp only
  split
  · exact .inr rfl
  · exact .inl rfl

theorem step_effect (s : Scheduler) (line : Line) : Effect line (s.step line).2.1 := by
  unfold step
  split
  · exact .nothing
  · exact .queued _
  · split
    · exact .nothing
    · rename_i room
      exact .put _ (by simpa using room)
  · split
    · rcases rest_line s line _ with same | ⟨elapsed, interval, noted⟩
      · rw [same]
        exact .nothing
      · rw [noted]
        exact .overran elapsed interval
    · exact .nothing
  · exact .nothing
  · exact .nothing
  · exact .nothing

theorem Effect.now (effect : Effect line next) : next.now = line.now := by cases effect <;> rfl

theorem step_devices (s : Scheduler) (line : Line) : (s.step line).1.devices = s.devices := by
  unfold step rest
  split
  case h_4 =>
    split
    · simp only
      split <;> rfl
    · rfl
  case h_3 => split <;> rfl
  all_goals rfl

/-- A scheduler at its place in the rounds, as what is on record of it tells. -/
def Placed (devices : List (Int × Producer)) (k : Nat) (s : Scheduler) (line : Line) : Prop :=
  Standing devices k (line.link.recorded Event.queued?) (line.link.recorded Event.roundSize?) s.stage

theorem Placed.congr (placed : Placed devices k s line)
    (queued : next.link.recorded Event.queued? = line.link.recorded Event.queued?)
    (sizes : next.link.recorded Event.roundSize? = line.link.recorded Event.roundSize?) :
    Placed devices k s next := by
  rw [Placed, queued, sizes]
  exact placed

/-- A round that is over leaves nothing but a warning. -/
theorem rest_placed {started : Binary64}
    (queued : line.link.recorded Event.queued? = rounds devices k)
    (sizes : line.link.recorded Event.roundSize? = List.replicate k (round devices).length) :
    Placed devices k (s.rest line started).1 (s.rest line started).2.1 := by
  have kept : (s.rest line started).2.1.link.recorded Event.queued? = rounds devices k ∧
      (s.rest line started).2.1.link.recorded Event.roundSize? =
        List.replicate k (round devices).length := by
    rcases rest_line s line started with same | ⟨elapsed, interval, noted⟩
    · rw [same]
      exact ⟨queued, sizes⟩
    · rw [noted]
      exact ⟨(Link.recorded_none line.link rfl).trans queued,
        (Link.recorded_none line.link rfl).trans sizes⟩
  unfold Placed
  rcases rest_stage s line started with resting | failed
  · rw [resting]
    exact kept
  · rw [failed, kept.1, kept.2]
    exact ⟨[], List.nil_prefix, by simp, fun _ => List.eq_of_mem_replicate⟩

/-- Each step stays in the round, but for the one that finds all its requests acknowledged. -/
theorem step_placed (same : s.devices = devices) (placed : Placed devices k s line) :
    Placed devices k (s.step line).1 (s.step line).2.1 ∨
      (∃ started, s.stage = .joining started) ∧ line.requests.unacknowledged = 0 ∧
        Placed devices (k + 1) (s.step line).1 (s.step line).2.1 := by
  obtain ⟨devices', interval, text, stage⟩ := s
  obtain rfl : devices' = devices := same
  cases stage with
  | starting =>
    obtain ⟨queued, sizes⟩ := placed
    exact .inl ⟨[], rfl, rfl, queued.trans (List.append_nil _).symm, sizes⟩
  | queueing rest count started =>
    obtain ⟨done, split, rfl, queued, sizes⟩ := placed
    cases rest with
    | nil =>
      -- what was put of this round is all of it
      rw [List.append_nil] at split
      rw [← split, ← rounds_succ] at queued
      refine .inl ⟨(Link.recorded_none line.link rfl).trans queued, ?_⟩
      have found : (Event.noted (.roundQueued done.length)).roundSize? = some done.length := rfl
      rw [List.replicate_succ', ← sizes, split]
      exact Link.recorded_some line.link found
    | cons request rest =>
      unfold step
      simp only
      split
      · exact .inl ⟨done, split, rfl, queued, sizes⟩
      · have found : (Event.queued request).queued? = some request := rfl
        refine .inl ⟨done ++ [request], by simp [split], by simp, ?_, ?_⟩
        · rw [← List.append_assoc, ← queued]
          exact Link.recorded_some line.link found
        · exact (Link.recorded_none line.link rfl).trans sizes
  | joining started =>
    obtain ⟨queued, sizes⟩ := placed
    unfold step
    simp only
    split
    · rename_i acknowledged
      exact .inr ⟨⟨started, rfl⟩, acknowledged, rest_placed queued sizes⟩
    · exact .inl ⟨queued, sizes⟩
  | resting => exact .inl placed
  | failed f => exact .inl placed
  | cancelled => exact .inl placed

theorem cancel_devices (s : Scheduler) : s.cancel.devices = s.devices := by
  unfold cancel
  split <;> rfl

theorem cancel_placed (placed : Placed devices k s line) : Placed devices k s.cancel line := by
  unfold cancel
  split
  · exact placed
  · obtain ⟨done, part, queued⟩ := placed.part
    exact ⟨done, part, queued, placed.reported⟩

end MeterPolling.Scheduler
