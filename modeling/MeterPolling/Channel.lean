/-!
Channels between tasks: items in the order in which they were put, an optional bound, and the number
of items that were put and not yet acknowledged as dealt with.
-/
namespace MeterPolling

structure Channel (α : Type) where
  items : List α
  /-- The most items it holds at once; zero stands for no bound. -/
  bound : Nat
  unacknowledged : Nat

namespace Channel

variable {α : Type}

def empty (bound : Nat) : Channel α := ⟨[], bound, 0⟩

def isFull (c : Channel α) : Bool := c.bound != 0 && c.bound ≤ c.items.length

/-- Whatever the bound, there is room where there is nothing. -/
theorem isFull_empty {c : Channel α} (empty : c.items = []) : c.isFull = false := by
  unfold isFull
  rw [empty]
  cases c.bound <;> simp

def put (c : Channel α) (item : α) : Channel α :=
  { c with items := c.items ++ [item], unacknowledged := c.unacknowledged + 1 }

/-- The first item and the channel without it. -/
def take? (c : Channel α) : Option (α × Channel α) :=
  match c.items with
  | [] => none
  | item :: rest => some (item, { c with items := rest })

/-- One item taken was dealt with. -/
def acknowledge (c : Channel α) : Channel α := { c with unacknowledged := c.unacknowledged - 1 }

end Channel

end MeterPolling
