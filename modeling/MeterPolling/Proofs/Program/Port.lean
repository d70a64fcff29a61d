import MeterPolling.Program
import MeterPolling.Proofs.Agent.Effect
import MeterPolling.Proofs.Agent.Run
import MeterPolling.Proofs.Scanner.Run
import MeterPolling.Proofs.Scheduler.Rounds
/-!
The port while it is in use. Nothing that the tasks of polling or a scan do closes it or takes its
client away; it is only closed as a whole, and then the closing is the last thing on record.
-/
namespace MeterPolling

namespace Link

structure Open (link : Link) : Prop where
  client : link.session.client.isSome = true
  unclosed : .closed ∉ link.history

structure Unread (link : Link) : Prop where
  notices : ∀ e ∈ link.history, ∃ notice, e = .noted notice
  unasked : ∀ client, link.session.client = some client → client.calls = []

/-- The port was closed: this is the last thing on record, and it happened once. -/
structure Closed (link : Link) : Prop where
  disconnected : link.session.connected = false
  last : ∃ events, link.history = events ++ [.closed] ∧ .closed ∉ events

variable {link next : Link}

/-! ## An open port stays open -/

theorem Open.adds (opened : link.Open)
    (client : next.session.client.isSome = link.session.client.isSome) {events : List Event}
    (history : next.history = link.history ++ events) (unclosed : .closed ∉ events) :
    next.Open := by
  refine ⟨client.trans opened.client, ?_⟩
  rw [history, List.mem_append]
  exact fun closed => closed.elim opened.unclosed unclosed

theorem Open.record (opened : link.Open) {event : Event} (other : event ≠ .closed) :
    (link.record event).Open :=
  opened.adds rfl (link.history_record event) (by simpa using other.symm)

theorem Open.note (opened : link.Open) (notice : Notice) : (link.note notice).Open :=
  opened.record (by simp)

theorem Open.works (opened : link.Open) (works : link.Works next) : next.Open := by
  obtain ⟨_, client, events, work, history⟩ := works
  exact opened.adds client history fun closed => by cases work _ closed

theorem Open.setTimeout (opened : link.Open) (timeout : Number) : (link.setTimeout timeout).Open :=
  ⟨by simpa [Link.setTimeout, Session.setTimeout] using opened.client, opened.unclosed⟩

theorem Open.setNow (opened : link.Open) (now : Binary64) : Open { link with now := now } :=
  ⟨opened.client, opened.unclosed⟩

theorem Open.beginQuery (opened : link.Open) (r : Request) : (link.beginQuery r).1.Open :=
  opened.works (link.beginQuery_works r)

theorem Open.settleQuery (opened : link.Open) (exchange : Exchange) :
    (link.settleQuery exchange).1.Open :=
  opened.works (link.settleQuery_works exchange)

/-- Closing an open port is the last thing on record, and the only one of its kind. -/
theorem Open.closePort (opened : link.Open) : link.closePort.Closed := by
  have client := opened.client
  unfold Link.closePort
  simp only [client, if_true]
  constructor
  · simp [Link.record, Session.closePort, Session.connected, Option.any_map]
  · exact ⟨_, Link.history_record _ _, opened.unclosed⟩

theorem Closed.setNow (closed : link.Closed) (now : Binary64) : Closed { link with now := now } :=
  ⟨closed.disconnected, closed.last⟩

/-! ## Opening it -/

theorem Unread.unclosed (unread : link.Unread) : .closed ∉ link.history := by
  intro closed
  obtain ⟨notice, same⟩ := unread.notices _ closed
  cases same

theorem Unread.note (unread : link.Unread) (notice : Notice) : (link.note notice).Unread := by
  refine ⟨fun e member => ?_, unread.unasked⟩
  rw [Link.note, history_record, List.mem_append, List.mem_singleton] at member
  exact member.elim (unread.notices e) fun same => ⟨notice, same⟩

theorem Unread.setNow (unread : link.Unread) (now : Binary64) : Unread { link with now := now } :=
  ⟨unread.notices, unread.unasked⟩

end Link

/-- However opening the port ends, the client that it leaves was not asked anything. -/
theorem Session.openPort_unasked {s : Session} (bus : Bus) {client : Client}
    (unasked : ∀ client, s.client = some client → client.calls = [])
    (present : (s.openPort bus).1.client = some client) : client.calls = [] := by
  unfold openPort at present
  split at present
  · exact unasked client present
  all_goals
    cases present
    rfl

namespace Link

variable {link next : Link}

/-- The link when its opening was announced. -/
def announced (link : Link) : Link :=
  if link.session.verbose then link.note (.connecting link.session.port link.session.preset)
  else link

/-- The link while the client connects: the client is made, and is not connected. -/
def connecting (link : Link) : Link :=
  { link.announced with session.client := some (link.session.newClient link.bus) }

theorem Unread.announced (unread : link.Unread) : link.announced.Unread := by
  unfold Link.announced
  split
  · exact unread.note _
  · exact unread

theorem Unread.connecting (unread : link.Unread) : link.connecting.Unread :=
  ⟨unread.announced.notices, fun client made => by cases made; rfl⟩

theorem openPort_result (link : Link) :
    link.openPort.2 = (link.announced.session.openPort link.announced.bus).2 := rfl

theorem openPort_session (link : Link) :
    link.openPort.1.session = (link.announced.session.openPort link.announced.bus).1 := by
  change (if _ then Link.note { link.announced with session := _ } _ else _).session = _
  split <;> rfl

/-- Whether the port can be opened has nothing to do with the time. -/
theorem openPort_setNow (link : Link) (now : Binary64) :
    ({ link with now := now } : Link).openPort.2 = link.openPort.2 := by
  have announced (link : Link) :
      link.announced.session = link.session ∧ link.announced.bus = link.bus := by
    unfold Link.announced
    split <;> exact ⟨rfl, rfl⟩
  rw [openPort_result, openPort_result, (announced _).1, (announced _).2, (announced _).1,
    (announced _).2]

theorem Unread.openPort (unread : link.Unread) : link.openPort.1.Unread := by
  have unread_made : Unread
      { link.announced with session := (link.announced.session.openPort link.announced.bus).1 } :=
    ⟨unread.announced.notices, fun _ => Session.openPort_unasked _ unread.announced.unasked⟩
  change Unread (if _ then Link.note { link.announced with session := _ } _ else _)
  split
  · exact unread_made.note _
  · exact unread_made

theorem openPort_open (unread : link.Unread) (opened : link.openPort = (next, .ok ())) :
    next.Open := by
  have unread_next := unread.openPort
  have result := link.openPort_result
  have session := link.openPort_session
  rw [opened] at unread_next result session
  refine ⟨?_, unread_next.unclosed⟩
  obtain ⟨client, present, _⟩ := Session.openPort_client result.symm
  rw [session, present, Option.isSome_some]

end Link

/-! ## What uses the port -/

variable {line : Line} {link : Link}

theorem Agent.step_open (a : Agent) (opened : line.link.Open) : (a.step line).2.1.link.Open := by
  rcases a.step_effect line with quiet | ⟨reading, _, put⟩ | ⟨control, _, put⟩
  · exact opened.works quiet.link
  · rw [put]
    exact opened.record (by simp)
  · rw [put]
    exact opened.record (by simp)

theorem Agent.cancel_open (a : Agent) (opened : line.link.Open) : (a.cancel line).2.link.Open :=
  opened.works (a.cancel_quiet line).link

theorem Scheduler.Effect.open {next : Line} (effect : Scheduler.Effect line next)
    (opened : line.link.Open) : next.link.Open := by
  cases effect with
  | nothing => exact opened
  | queued count => exact opened.note _
  | overran elapsed interval => exact opened.note _
  | put request room => exact opened.record (by simp)

namespace Polling

variable {p : Polling}

theorem endTask_open (opened : p.line.link.Open) (task : Task) :
    (p.endTask task).line.link.Open := by
  cases task with
  | agent => exact p.agent.cancel_open opened
  | _ => exact opened

theorem stepTask_open (opened : p.line.link.Open) (task : Task) :
    (p.stepTask task).1.line.link.Open := by
  unfold stepTask
  split
  · exact opened
  · split
    · exact endTask_open opened task
    · cases task with
      | readingsReporter =>
        simp only [reportReading]
        split
        · exact opened
        · exact opened.note _
      | controlsReporter =>
        simp only [reportControl]
        split
        · exact opened
        · exact opened.note _
      | scheduler => exact (p.scheduler.step_effect p.line).open opened
      | agent => exact p.agent.step_open opened

theorem stepSupervisor_line (p : Polling) : p.stepSupervisor.1.line = p.line := by
  unfold stepSupervisor
  cases p.supervisor with
  | watching =>
    simp only
    split
    · rfl
    · split
      · rfl
      · split <;> rfl
  | alerted => rfl
  | draining =>
    simp only
    split <;> rfl
  | done => rfl

end Polling

theorem Probe.step_open (probe : Probe) (device : Int) (opened : link.Open) :
    (probe.step device link).2.1.Open := by
  unfold step
  split
  · exact opened
  · split
    · exact opened
    · rename_i request _
      have begun := opened.beginQuery request
      split
      · rename_i begins
        rw [begins] at begun
        exact begun
      · rename_i begins
        rw [begins] at begun
        split <;> exact begun
  · rename_i producer request exchange rest
    have settled := opened.settleQuery exchange
    simp only [settle]
    split
    · rename_i settles
      rw [settles] at settled
      split
      · exact settled.note _
      · exact settled
    · rename_i settles
      rw [settles] at settled
      exact settled
    · rename_i settles
      rw [settles] at settled
      exact settled
  · exact opened

namespace Scanner

theorem finish_open (s : Scanner) (opened : link.Open) : (s.finish link).2.1.Open :=
  s.finish_keeps (fun _ notice opened => opened.note notice) (opened.setTimeout s.previous)

theorem pace_open (s : Scanner) (device : Int) (opened : link.Open) :
    (s.pace device link).2.1.Open := by
  unfold pace
  split
  · exact opened
  · exact opened.setTimeout _

theorem goOn_open (s : Scanner) (device : Int) (opened : link.Open) :
    (s.goOn device link).2.1.Open := by
  unfold goOn
  split
  · exact s.pace_open _ opened
  · exact s.finish_open opened

theorem step_open (s : Scanner) (opened : link.Open) : (s.step link).2.1.Open := by
  unfold step
  split
  · exact pace_open _ _ ((opened.note _).setTimeout _)
  · exact opened
  · exact goOn_open _ _ opened
  · exact goOn_open _ _ (opened.note _)
  · exact opened.setTimeout _
  · rename_i device probe _ _ _ _
    exact probe.step_open device opened
  all_goals exact opened

theorem cancel_open (s : Scanner) (opened : link.Open) : (s.cancel link).2.Open := by
  unfold cancel
  split
  case h_5 => exact opened.setTimeout _
  all_goals exact opened

end Scanner

end MeterPolling
