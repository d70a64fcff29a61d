import MeterPolling.Decoder
/-!
What is asked of a meter and what comes back: a request for some registers, the reading it gives,
and the control notice that closes it whether or not the meter answered.
-/
namespace MeterPolling

/-- One read of consecutive registers of one device. -/
structure Request where
  device : Int
  function : Int
  /-- The first register. -/
  address : Int
  /-- How many registers. -/
  count : Int
  decoder : Decoder
  label : Option String
deriving DecidableEq

/-- The text that names a request in messages; nothing when its decoder has none. -/
def Request.name? (r : Request) : Option String :=
  r.decoder.name?.map fun decoder =>
    s!"<QuerySnip dev={r.device} fc={r.function} op=0x{Decimal.hexText 4 r.address} "
      ++ s!"len={r.count} {decoder}>"

/-- The decoded answer to a request, with the time at which it was read. -/
structure Reading where
  request : Request
  value : Binary64
  readAt : Binary64
deriving DecidableEq

/-- Closes one request: its device answered, or all attempts failed. -/
inductive Control where
  | answered (device : Int)
  | silent (device : Int)
deriving DecidableEq

namespace Control

def device : Control → Int
  | .answered d | .silent d => d

def kind : Control → String
  | .answered _ => "ok"
  | .silent _ => "error"

def message : Control → String
  | .answered _ => "OK"
  | .silent d => s!"Device {d} did not respond."

end Control

end MeterPolling
