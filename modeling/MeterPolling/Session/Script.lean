import MeterPolling.Link
/-!
Sequences of operations on a session, with blocks inside which another timeout holds. A block may
contain anything, blocks too, and may end early with an error; the timeout of before comes back
either way. A failed operation does not stop the sequence.
-/
namespace MeterPolling.Session

inductive Operation where
  | openPort
  | closePort
  | read (call : Call)
  | setTimeout (timeout : Number)
  /-- Operations under another timeout; an error may be raised at their end. -/
  | override (timeout : Number) (body : List Operation) (early : Option ClientError)

instance : Inhabited Operation := ⟨.closePort⟩

/-- What was done, with its result. -/
inductive Effect where
  | opened (result : Except Failure Unit)
  | closed
  | read (result : Except Failure (List UInt8))
  | timeoutSet
  | overrideEntered
  | overrideLeft (early : Option ClientError)

structure Step where
  effect : Effect
  link : Link

mutual

/-- Carries out an operation; gives the link afterwards and the steps taken, the latest first. -/
def Operation.run (op : Operation) (link : Link) (steps : List Step) : Link × List Step :=
  match op with
  | .openPort =>
    let (link, result) := link.openPort
    (link, ⟨.opened result, link⟩ :: steps)
  | .closePort =>
    let link := link.closePort
    (link, ⟨.closed, link⟩ :: steps)
  | .read call =>
    let (link, result) := link.read call
    (link, ⟨.read result, link⟩ :: steps)
  | .setTimeout timeout =>
    let link := link.setTimeout timeout
    (link, ⟨.timeoutSet, link⟩ :: steps)
  | .override timeout body early =>
    let previous := link.session.timeout
    let link := link.setTimeout timeout
    let (link, steps) := runAll body link (⟨.overrideEntered, link⟩ :: steps)
    let link := link.setTimeout previous
    (link, ⟨.overrideLeft early, link⟩ :: steps)

def runAll (ops : List Operation) (link : Link) (steps : List Step) : Link × List Step :=
  match ops with
  | [] => (link, steps)
  | op :: rest =>
    let (link, steps) := op.run link steps
    runAll rest link steps

end

end MeterPolling.Session
