import MeterPolling.Scanner
/-!
A scan, or the probing of one address, with nothing else going on.
-/
namespace MeterPolling

/-- Something that is done step by step on a link, by one task. -/
structure Solitary (α : Type) where
  state : α
  link : Link

namespace Solitary

variable {α : Type}

/-- The only task. -/
def tasks (step : α → Link → α × Link × Pause) (hasEnded : α → Bool) : Tasks Unit (Solitary α) where
  step _ s :=
    let (state, link, pause) := step s.state s.link
    (⟨state, link⟩, pause)
  awake _ _ := false
  now s := s.link.now
  setNow now s := { s with link := { s.link with now := now } }
  finished s := hasEnded s.state

/-- Runs it to its end, or until nothing more happens before the alarm. -/
def run (step : α → Link → α × Link × Pause) (hasEnded : α → Bool) (alarm : Option Binary64)
    (s : Solitary α) : Solitary α :=
  ((Loop.start s [()]).run (tasks step hasEnded) alarm).shared

end Solitary

def Scanner.run (scanner : Scanner) (link : Link) : Scanner × Link :=
  let s := Solitary.run Scanner.step Scanner.hasEnded none ⟨scanner, link⟩
  (s.state, s.link)

/-- Scans all addresses, unless the scan is interrupted first, once `limit` has passed. -/
def Scanner.runFor (scanner : Scanner) (limit : Number) (link : Link) : Scanner × Link :=
  let alarm := Link.after link.now limit
  let s := Solitary.run Scanner.step Scanner.hasEnded (some alarm) ⟨scanner, link⟩
  if s.state.hasEnded then (s.state, s.link)
  else s.state.cancel { s.link with now := alarm }

/-- Probes one address with one producer after the other. -/
def Probe.run (producers : List Producer) (device : Int) (link : Link) : Probe × Link :=
  let s := Solitary.run (Probe.step device) Probe.hasEnded none ⟨.trying producers, link⟩
  (s.state, s.link)

end MeterPolling
