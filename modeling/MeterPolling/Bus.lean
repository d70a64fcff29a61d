import MeterPolling.Fault
/-!
The serial bus as the program sees it: what opening the port does, and what becomes of each read.
What a read gives may depend on all the reads before it. A bus that answers by rules is given in
`Bus.Script`.
-/
namespace MeterPolling

/-- One read of registers as it reaches the bus. -/
structure Call where
  function : Int
  address : Int
  count : Int
  device : Int
deriving DecidableEq

/-- How a read ends. -/
inductive Answer where
  | registers (words : List UInt16)
  /-- As many registers, the first of which that does not hold sixteen bits has this value. -/
  | misfit (count : Nat) (value : Int)
  | exception (code : Int)
  | raised (error : ClientError)
deriving DecidableEq

/-- The answer with registers of these values. -/
def Answer.ofValues (values : List Int) : Answer :=
  match values.find? fun x => x < 0 || 0x10000 ≤ x with
  | none => .registers (values.map fun x => UInt16.ofNat x.toNat)
  | some x => .misfit values.length x

/-- What becomes of a read: no answer within the timeout, or an answer, at once or after a delay. -/
inductive Reply where
  | silence
  | answered (delay : Option Number) (answer : Answer)
deriving DecidableEq

/-- What opening the port does. -/
inductive Opening where
  | connects (connected : Bool)
  | connectRaises (error : ClientError)
  | constructionRaises (error : ClientError)
deriving DecidableEq

structure Bus where
  opening : Opening
  /-- Whether the client waits on its own copy of the timeout. -/
  copiesTimeout : Bool
  /-- The reply to a read, given the earlier ones of the same client, the latest first. -/
  reply : List Call → Call → Reply

end MeterPolling
