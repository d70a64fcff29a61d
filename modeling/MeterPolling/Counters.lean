/-!
What monitoring sees of the traffic: how many queries were made, and how many of them failed.
-/
namespace MeterPolling

structure Counters where
  requests : Nat
  reconnects : Nat
deriving DecidableEq

namespace Counters

/-- Nothing was asked yet. -/
def fresh : Counters := ⟨0, 0⟩

def addRequest (c : Counters) : Counters := { c with requests := c.requests + 1 }

def addReconnect (c : Counters) : Counters := { c with reconnects := c.reconnects + 1 }

end Counters

end MeterPolling
