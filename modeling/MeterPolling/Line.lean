import MeterPolling.Channel
import MeterPolling.Link
/-!
What the tasks share: the link, and the channels for requests, readings and controls. A request that
is absent tells the agent to stop.
-/
namespace MeterPolling

structure Line where
  link : Link
  requests : Channel (Option Request)
  readings : Channel Reading
  controls : Channel Control

namespace Line

/-- Channels of the given bounds on a link. -/
def make (link : Link) (requests readings controls : Nat) : Line :=
  ⟨link, .empty requests, .empty readings, .empty controls⟩

def now (line : Line) : Binary64 := line.link.now

def setNow (now : Binary64) (line : Line) : Line :=
  { line with link := { line.link with now := now } }

def note (line : Line) (notice : Notice) : Line := { line with link := line.link.note notice }

def queue (line : Line) (request : Request) : Line :=
  { line with
    link := line.link.record (.queued request)
    requests := line.requests.put (some request) }

def deliver (line : Line) (reading : Reading) : Line :=
  { line with
    link := line.link.record (.delivered reading)
    readings := line.readings.put reading }

def report (line : Line) (control : Control) : Line :=
  { line with
    link := line.link.record (.reported control)
    controls := line.controls.put control }

/-- The request taken last was dealt with. -/
def acknowledge (line : Line) : Line := { line with requests := line.requests.acknowledge }

end Line

end MeterPolling
