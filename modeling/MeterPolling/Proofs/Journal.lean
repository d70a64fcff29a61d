import MeterPolling.Line
/-!
What is on record of a link, in the order in which it happened, and what each operation on the link
adds to it. Times are left out: the deeds of an agent and the reports of the other tasks are compared
between runs that differ in nothing but timing.
-/
namespace MeterPolling

inductive Deed where
  | asked (call : Call)
  | delivered (request : Request) (value : Binary64)
  | reported (control : Control)
deriving DecidableEq

@[simp]
def Deed.call? : Deed → Option Call
  | .asked call => some call
  | _ => none

@[simp]
def Deed.result? : Deed → Option (Request × Binary64)
  | .delivered request value => some (request, value)
  | _ => none

@[simp]
def Deed.control? : Deed → Option Control
  | .reported control => some control
  | _ => none

def Reading.result (r : Reading) : Request × Binary64 := (r.request, r.value)

namespace Event

def deed? : Event → Option Deed
  | .called call _ => some (.asked call)
  | .delivered reading => some (.delivered reading.request reading.value)
  | .reported control => some (.reported control)
  | _ => none

def call? : Event → Option Call
  | .called call _ => some call
  | _ => none

def reading? : Event → Option Reading
  | .delivered reading => some reading
  | _ => none

def control? : Event → Option Control
  | .reported control => some control
  | _ => none

def queued? : Event → Option Request
  | .queued request => some request
  | _ => none

/-- The size of a round that the scheduler reports as queued. -/
def roundSize? : Event → Option Nat
  | .noted (.roundQueued count) => some count
  | _ => none

def loggedReading? : Event → Option Reading
  | .noted (.readingTaken reading) => some reading
  | _ => none

def loggedControl? : Event → Option Control
  | .noted (.controlTaken control _ _) => some control
  | _ => none

theorem deed_call (e : Event) : (e.deed?.bind Deed.call?) = e.call? := by cases e <;> rfl

theorem deed_result (e : Event) :
    (e.deed?.bind Deed.result?) = e.reading?.map Reading.result := by cases e <;> rfl

theorem deed_control (e : Event) : (e.deed?.bind Deed.control?) = e.control? := by cases e <;> rfl

end Event

namespace Link

def history (link : Link) : List Event := link.journal.reverse.map (·.event)

def recorded (link : Link) (kind : Event → Option α) : List α := link.history.filterMap kind

def deeds (link : Link) : List Deed := link.recorded Event.deed?

theorem recorded_record (link : Link) (event : Event) (kind : Event → Option α) :
    (link.record event).recorded kind = link.recorded kind ++ (kind event).toList := by
  cases found : kind event <;> simp [recorded, history, record, found]

theorem recorded_none (link : Link) {event : Event} {kind : Event → Option α}
    (other : kind event = none) : (link.record event).recorded kind = link.recorded kind := by
  rw [recorded_record, other, Option.toList_none, List.append_nil]

theorem recorded_some (link : Link) {event : Event} {kind : Event → Option α} {x : α}
    (found : kind event = some x) :
    (link.record event).recorded kind = link.recorded kind ++ [x] := by
  rw [recorded_record, found, Option.toList_some]

theorem deeds_calls (link : Link) : link.deeds.filterMap Deed.call? = link.recorded Event.call? := by
  simp only [deeds, recorded, List.filterMap_filterMap, Event.deed_call]

theorem deeds_results (link : Link) :
    link.deeds.filterMap Deed.result? = (link.recorded Event.reading?).map Reading.result := by
  simp only [deeds, recorded, List.filterMap_filterMap, Event.deed_result, List.map_filterMap]

theorem deeds_controls (link : Link) :
    link.deeds.filterMap Deed.control? = link.recorded Event.control? := by
  simp only [deeds, recorded, List.filterMap_filterMap, Event.deed_control]

end Link

end MeterPolling
