import MeterPolling.Proofs.Scheduler.Rounds
/-!
Runs of a scheduler with a consumer that takes one request at a time, and acknowledges it whenever it
likes before it takes the next one. The rounds do not overlap: a request is put only after all of the
rounds before its own were acknowledged, so that never more than one round is outstanding.
-/
namespace MeterPolling

/-- Nothing that concerns the requests differs between two lines: neither those that wait, nor those
on record, nor what the scheduler reported of its rounds. -/
structure Line.Besides (line line' : Line) : Prop where
  requests : line'.requests = line.requests
  queued : line'.link.recorded Event.queued? = line.link.recorded Event.queued?
  sizes : line'.link.recorded Event.roundSize? = line.link.recorded Event.roundSize?

structure Line.Unfed (line : Line) (bound : Nat) : Prop where
  requests : line.requests = .empty bound
  queued : line.link.recorded Event.queued? = []
  sizes : line.link.recorded Event.roundSize? = []

namespace Scheduler

structure Consumer where
  /-- What was taken last, until it is acknowledged. -/
  held : Option (Option Request)
  /-- What was acknowledged, in order. -/
  acknowledged : List (Option Request)

def Consumer.step (c : Consumer) (line : Line) : Consumer × Line :=
  match c.held with
  | some item => (⟨none, c.acknowledged ++ [item]⟩, line.acknowledge)
  | none =>
    match line.requests.take? with
    | none => (c, line)
    | some (item, left) => (⟨some item, c.acknowledged⟩, { line with requests := left })

inductive Run (s₀ : Scheduler) (line₀ : Line) : Scheduler → Line → Consumer → Prop where
  | start : Run s₀ line₀ s₀ line₀ ⟨none, []⟩
  | step : Run s₀ line₀ s line c → Run s₀ line₀ (s.step line).1 (s.step line).2.1 c
  | cancel : Run s₀ line₀ s line c → Run s₀ line₀ s.cancel line c
  | consume : Run s₀ line₀ s line c → Run s₀ line₀ s (c.step line).2 (c.step line).1
  | aside : Run s₀ line₀ s line c → line.Besides line' → Run s₀ line₀ s line' c

/-- What was put has been acknowledged, is held by the consumer or still waits, in this order. -/
structure Order (bound : Nat) (line : Line) (c : Consumer) : Prop where
  capacity : line.requests.bound = bound
  order : (line.link.recorded Event.queued?).map some =
    c.acknowledged ++ c.held.toList ++ line.requests.items
  unacknowledged : line.requests.unacknowledged + c.acknowledged.length =
    (line.link.recorded Event.queued?).length
  room : bound ≠ 0 → line.requests.items.length ≤ bound

structure Account (devices : List (Int × Producer)) (bound : Nat) (s : Scheduler) (line : Line)
    (c : Consumer) : Prop where
  same : s.devices = devices
  placed : ∃ k, Placed devices k s line ∧ (round devices).length * k ≤ c.acknowledged.length
  order : Order bound line c

variable {devices : List (Int × Producer)} {bound k : Nat} {interval : Number} {text : String}
  {s : Scheduler} {line line₀ line' : Line} {c : Consumer} {item : Option Request}
  {acknowledged : List (Option Request)} {left : Channel (Option Request)}

theorem Order.congr (order : Order bound line c) (requests : line'.requests = line.requests)
    (queued : line'.link.recorded Event.queued? = line.link.recorded Event.queued?) :
    Order bound line' c := by
  constructor
  · rw [requests, order.capacity]
  · rw [queued, requests, order.order]
  · rw [queued, requests, order.unacknowledged]
  · rw [requests]
    exact order.room

theorem Order.put (order : Order bound line c) (request : Request)
    (room : line.requests.isFull = false) : Order bound (line.queue request) c := by
  have found : (Event.queued request).queued? = some request := rfl
  have queued := line.link.recorded_some found
  constructor
  · exact order.capacity
  · change ((line.link.record (.queued request)).recorded Event.queued?).map some =
      _ ++ (line.requests.items ++ [some request])
    rw [queued, List.map_append, order.order]
    simp
  · change line.requests.unacknowledged + 1 + _ =
      ((line.link.record (.queued request)).recorded Event.queued?).length
    rw [queued, List.length_append, List.length_singleton, ← order.unacknowledged]
    omega
  · intro bounded
    have free : line.requests.items.length < bound := by
      simpa [Channel.isFull, order.capacity, bounded] using room
    change (line.requests.items ++ [some request]).length ≤ bound
    rwa [List.length_append, List.length_singleton]

theorem Order.take (order : Order bound line ⟨none, acknowledged⟩)
    (taken : line.requests.take? = some (item, left)) :
    Order bound { line with requests := left } ⟨some item, acknowledged⟩ := by
  unfold Channel.take? at taken
  split at taken
  · cases taken
  · rename_i first rest items
    cases taken
    have all := order.order
    rw [items] at all
    refine ⟨order.capacity, ?_, order.unacknowledged, ?_⟩
    · simpa using all
    · intro bounded
      have room := order.room bounded
      rw [items, List.length_cons] at room
      exact Nat.le_of_succ_le room

theorem Order.acknowledge (order : Order bound line ⟨some item, acknowledged⟩) :
    Order bound line.acknowledge ⟨none, acknowledged ++ [item]⟩ := by
  have all := order.order
  have count := congrArg List.length all
  simp only [List.length_map, List.length_append, Option.toList_some, List.length_singleton] at count
  have still := order.unacknowledged
  constructor
  · exact order.capacity
  · change (line.link.recorded Event.queued?).map some = _ ++ line.requests.items
    simpa using all
  · change line.requests.unacknowledged - 1 + (acknowledged ++ [item]).length =
      (line.link.recorded Event.queued?).length
    simp only at still
    rw [List.length_append, List.length_singleton]
    omega
  · exact order.room

theorem Order.step (order : Order bound line c) : Order bound (c.step line).2 (c.step line).1 := by
  obtain ⟨held, acknowledged⟩ := c
  unfold Consumer.step
  cases held with
  | some item => exact order.acknowledge
  | none =>
    simp only
    split
    · exact order
    · rename_i taken
      exact order.take taken

theorem Consumer.step_acknowledged (c : Consumer) (line : Line) :
    c.acknowledged <+: (c.step line).1.acknowledged := by
  unfold step
  split
  · exact List.prefix_append _ _
  · split <;> exact List.prefix_refl _

theorem Consumer.step_link (c : Consumer) (line : Line) : (c.step line).2.link = line.link := by
  unfold step
  split
  · rfl
  · split <;> rfl

theorem Effect.order (effect : Effect line line') (order : Order bound line c) :
    Order bound line' c := by
  cases effect with
  | nothing => exact order
  | queued count => exact order.congr rfl (Link.recorded_none line.link rfl)
  | overran elapsed interval => exact order.congr rfl (Link.recorded_none line.link rfl)
  | put request room => exact order.put request room

/-- A round that is over was acknowledged when nothing is left to be. -/
theorem Order.all_acknowledged (order : Order bound line c)
    (none_left : line.requests.unacknowledged = 0)
    (queued : line.link.recorded Event.queued? = rounds devices k) :
    (round devices).length * k ≤ c.acknowledged.length := by
  have count := order.unacknowledged
  rw [none_left, queued, rounds_length] at count
  omega

theorem step_account (account : Account devices bound s line c) :
    Account devices bound (s.step line).1 (s.step line).2.1 c := by
  obtain ⟨same, ⟨k, placed, acknowledged⟩, order⟩ := account
  refine ⟨(step_devices s line).trans same, ?_, (step_effect s line).order order⟩
  rcases step_placed same placed with stays | ⟨⟨started, joining⟩, none_left, next⟩
  · exact ⟨k, stays, acknowledged⟩
  · -- the round was put as a whole, and none of it is left to be acknowledged
    rw [Placed, joining] at placed
    exact ⟨k + 1, next, order.all_acknowledged none_left placed.1⟩

theorem Run.account (unfed : line₀.Unfed bound)
    (run : Run (make devices interval text) line₀ s line c) :
    Account devices bound s line c := by
  induction run with
  | start =>
    obtain ⟨requests, queued, sizes⟩ := unfed
    refine ⟨rfl, ⟨0, ⟨queued, sizes⟩, Nat.le_refl 0⟩, ?_, ?_, ?_, ?_⟩
    · rw [requests]
      rfl
    · rw [requests, queued]
      rfl
    · rw [requests, queued]
      rfl
    · rw [requests]
      exact fun _ => Nat.zero_le bound
  | step _ ih => exact step_account ih
  | @cancel s line c _ ih =>
    obtain ⟨same, ⟨k, placed, acknowledged⟩, order⟩ := ih
    exact ⟨(cancel_devices s).trans same, ⟨k, cancel_placed placed, acknowledged⟩, order⟩
  | @consume s line c _ ih =>
    obtain ⟨same, ⟨k, placed, acknowledged⟩, order⟩ := ih
    have still := c.step_link line
    refine ⟨same, ⟨k, placed.congr (by rw [still]) (by rw [still]), ?_⟩, order.step⟩
    exact Nat.le_trans acknowledged (c.step_acknowledged line).length_le
  | aside _ besides ih =>
    obtain ⟨same, ⟨k, placed, acknowledged⟩, order⟩ := ih
    exact ⟨same, ⟨k, placed.congr besides.queued besides.sizes, acknowledged⟩,
      order.congr besides.requests besides.queued⟩

structure InRounds (devices : List (Int × Producer)) (bound : Nat) (line : Line) (c : Consumer) :
    Prop where
  /-- What was put is the beginning of one round after the other. -/
  puts : ∃ k, line.link.recorded Event.queued? <+: rounds devices k
  order : (line.link.recorded Event.queued?).map some =
    c.acknowledged ++ c.held.toList ++ line.requests.items
  /-- As soon as more than so many rounds were put, all of these were acknowledged. -/
  turns : ∀ k, (rounds devices k).length < (line.link.recorded Event.queued?).length →
    (rounds devices k).length ≤ c.acknowledged.length
  backlog : (line.link.recorded Event.queued?).length ≤
    c.acknowledged.length + (round devices).length
  /-- What was put and not acknowledged lies within one round. -/
  one_round : ∃ k, (rounds devices k).length ≤ c.acknowledged.length ∧
    (line.link.recorded Event.queued?).length ≤ (rounds devices (k + 1)).length
  size : line.requests.items.length ≤ (round devices).length
  room : bound ≠ 0 → line.requests.items.length ≤ bound
  /-- Whoever has just taken a request sees fewer than a round. -/
  left : c.held.isSome → line.requests.items.length < (round devices).length
  counts : ∀ size ∈ line.link.recorded Event.roundSize?, size = (round devices).length

theorem Account.inRounds (account : Account devices bound s line c) :
    InRounds devices bound line c := by
  obtain ⟨_, ⟨k, placed, acknowledged⟩, order⟩ := account
  obtain ⟨done, part, queued⟩ := placed.part
  have within := part.length_le
  have count := congrArg List.length order.order
  simp only [List.length_map, List.length_append] at count
  have total := congrArg List.length queued
  rw [List.length_append, rounds_length] at total
  constructor
  case puts =>
    refine ⟨k + 1, ?_⟩
    rw [queued, rounds_succ]
    exact (List.prefix_append_right_inj _).mpr part
  case order => exact order.order
  case turns =>
    intro j below
    rw [rounds_length] at below ⊢
    -- no more than `k + 1` rounds were begun
    have early : j < k + 1 := by
      apply Nat.lt_of_mul_lt_mul_left (a := (round devices).length)
      rw [Nat.mul_succ]
      omega
    exact Nat.le_trans (Nat.mul_le_mul_left _ (Nat.le_of_lt_succ early)) acknowledged
  case backlog => omega
  case one_round =>
    refine ⟨k, ?_, ?_⟩
    · rw [rounds_length]
      exact acknowledged
    · rw [rounds_length, Nat.mul_succ]
      omega
  case size => omega
  case room => exact order.room
  case left =>
    intro held
    obtain ⟨item, held⟩ := Option.isSome_iff_exists.mp held
    rw [held, Option.toList_some, List.length_singleton] at count
    omega
  case counts => exact placed.reported

/-- Whatever the consumer does and however long it takes, at every moment of a run the rounds follow
one another without overlap. -/
theorem Run.rounds_never_overlap (unfed : line₀.Unfed bound)
    (run : Run (make devices interval text) line₀ s line c) : InRounds devices bound line c :=
  (run.account unfed).inRounds

def pair : List (Int × Producer) :=
  let producer : Producer := ⟨"Toy", "toy", 4, "VolLocPhsA", [("VolLocPhsA", ⟨0, .raw32⟩)]⟩
  [(1, producer), (2, producer)]

def pairLine : Line := .make (.make (.mk (.connects true) false fun _ _ => .silence)
  (.make "/dev/ttyUSB0" .b9600n false) false) 1 0 0

/-- With room for one request, the second round begins after both requests of the first. -/
theorem Run.pair_never_overlaps :
    pairLine.Unfed 1 ∧ ∃ s line c, Run (make pair 5 "5") pairLine s line c ∧
      c.acknowledged.length = 2 ∧ (line.link.recorded Event.queued?).length = 3 ∧
      InRounds pair 1 line c := by
  have unfed : pairLine.Unfed 1 := ⟨rfl, rfl, rfl⟩
  have first : Run (make pair 5 "5") pairLine _ _ _ := Run.start.step.step.step.consume.step
  have second := first.consume.consume.consume.step.step.step.step.step
  refine ⟨unfed, _, _, _, second, ?_, ?_, second.rounds_never_overlap unfed⟩
  · decide +kernel
  · decide +kernel

end Scheduler

end MeterPolling
