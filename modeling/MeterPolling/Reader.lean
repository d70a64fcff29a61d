import MeterPolling.Channel
import MeterPolling.Cooperative
/-!
A reader takes the items of a channel at its own pace: it pauses, takes one item, and starts again.
A pause that is too long ends it.
-/
namespace MeterPolling

/-- Where a reader is. -/
inductive Reader where
  /-- About to pause. -/
  | starting
  | pausing
  | waiting
deriving DecidableEq

namespace Reader

variable {α : Type}

def take (channel : Channel α) : Reader × Channel α × Pause :=
  match channel.take? with
  | none => (.waiting, channel, .waits)
  | some (_, channel) => (.starting, channel, .continues)

/-- One step of a reader; without a pace it takes nothing. -/
def step (pace : Option Number) (r : Reader) (channel : Channel α) : Reader × Channel α × Pause :=
  match pace, r with
  | none, _ => (r, channel, .ends)
  | some delay, .starting => (.pausing, channel, (Pause.ofDelay? delay).getD .ends)
  | some _, .pausing | some _, .waiting => take channel

/-- Whether a paused reader has what it waits for. -/
def awake (r : Reader) (channel : Channel α) : Bool := r == .waiting && !channel.items.isEmpty

end Reader

end MeterPolling
