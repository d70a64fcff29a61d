import MeterPolling.Proofs.Agent.Course
/-!
What a step of an agent leaves on the line. Two kinds of steps put something, a reading or a control;
all others leave the output channels and the clock alone, and nothing on record but calls and the
agent's own notices.
-/
namespace MeterPolling

/-- What an agent leaves on record apart from what it puts. -/
def Event.isWork : Event → Bool
  | .called _ _ | .noted (.queryFailed _ _ _) | .noted (.retrying _ _ _)
  | .noted .agentCancelled => true
  | _ => false

/-- An agent's work is nothing that is put, and nothing that others report. -/
theorem Event.isWork_apart {e : Event} (work : e.isWork) :
    e.queued? = none ∧ e.roundSize? = none ∧ e.reading? = none ∧ e.control? = none ∧
      e.loggedReading? = none ∧ e.loggedControl? = none := by
  unfold isWork at work
  split at work
  case h_5 => cases work
  all_goals exact ⟨rfl, rfl, rfl, rfl, rfl, rfl⟩

/-- The link stands at the same time and has its client, with nothing but an agent's work added. -/
structure Link.Works (link next : Link) : Prop where
  now : next.now = link.now
  client : next.session.client.isSome = link.session.client.isSome
  history : ∃ events : List Event, (∀ e ∈ events, e.isWork) ∧ next.history = link.history ++ events

structure Line.Quiet (line next : Line) : Prop where
  readings : next.readings = line.readings
  controls : next.controls = line.controls
  link : line.link.Works next.link

/-- A read neither makes a client nor loses one. -/
theorem Session.begin_client (s : Session) (bus : Bus) (call : Call) :
    (s.begin bus call).1.client.isSome = s.client.isSome := by
  unfold Session.begin
  split
  · rfl
  · split <;> simp [*]

namespace Link

variable {link middle next : Link}

theorem history_record (link : Link) (event : Event) :
    (link.record event).history = link.history ++ [event] := by
  simp [history, record]

theorem Works.refl (link : Link) : link.Works link := ⟨rfl, rfl, [], by simp, by simp⟩

theorem Works.trans (first : link.Works middle) (second : middle.Works next) : link.Works next := by
  obtain ⟨now, client, events, work, history⟩ := first
  obtain ⟨now', client', events', work', history'⟩ := second
  refine ⟨now'.trans now, client'.trans client, events ++ events', ?_, ?_⟩
  · intro e member
    exact (List.mem_append.mp member).elim (work e) (work' e)
  · rw [history', history, List.append_assoc]

theorem works_record (link : Link) {event : Event} (work : event.isWork) :
    link.Works (link.record event) :=
  ⟨rfl, rfl, [event], by simpa using work, history_record link event⟩

/-- What is on record of a kind apart from an agent's work stays as it is. -/
theorem Works.recorded {kind : Event → Option α} (works : link.Works next)
    (apart : ∀ e : Event, e.isWork → kind e = none) : next.recorded kind = link.recorded kind := by
  obtain ⟨_, _, events, work, history⟩ := works
  have none : events.filterMap kind = [] :=
    List.filterMap_eq_nil_iff.mpr fun e member => apart e (work e member)
  rw [Link.recorded, history, List.filterMap_append, none, List.append_nil]
  rfl

theorem Works.queued (works : link.Works next) :
    next.recorded Event.queued? = link.recorded Event.queued? :=
  works.recorded fun _ work => (Event.isWork_apart work).1

theorem Works.sizes (works : link.Works next) :
    next.recorded Event.roundSize? = link.recorded Event.roundSize? :=
  works.recorded fun _ work => (Event.isWork_apart work).2.1

theorem Works.readings (works : link.Works next) :
    next.recorded Event.reading? = link.recorded Event.reading? :=
  works.recorded fun _ work => (Event.isWork_apart work).2.2.1

theorem Works.controls (works : link.Works next) :
    next.recorded Event.control? = link.recorded Event.control? :=
  works.recorded fun _ work => (Event.isWork_apart work).2.2.2.1

theorem Works.loggedReadings (works : link.Works next) :
    next.recorded Event.loggedReading? = link.recorded Event.loggedReading? :=
  works.recorded fun _ work => (Event.isWork_apart work).2.2.2.2.1

theorem Works.loggedControls (works : link.Works next) :
    next.recorded Event.loggedControl? = link.recorded Event.loggedControl? :=
  works.recorded fun _ work => (Event.isWork_apart work).2.2.2.2.2

theorem beginRead_works (link : Link) (call : Call) : link.Works (link.beginRead call).1 := by
  have client := link.session.begin_client link.bus call
  unfold beginRead
  simp only
  split
  · exact ⟨rfl, client, [.called call _], by simp [Event.isWork], history_record _ _⟩
  · exact ⟨rfl, client, [], by simp, (List.append_nil _).symm⟩

theorem beginQuery_works (link : Link) (r : Request) : link.Works (link.beginQuery r).1 := by
  unfold beginQuery
  split
  · split <;> exact .refl link
  · split
    · exact .refl link
    · -- the count of queries is no part of what is on record
      have works := beginRead_works { link with counters := link.counters.addRequest } r.call
      exact ⟨works.now, works.client, works.history⟩

theorem settleQuery_works (link : Link) (exchange : Exchange) :
    link.Works (link.settleQuery exchange).1 := by
  unfold settleQuery
  split
  · simp only
    split
    · exact works_record link rfl
    · exact .refl link
  · exact .refl link

theorem Works.fault (works : link.Works next) (device : Int) (attempt limit : Nat) :
    link.Works ({ next with counters := next.counters.addReconnect }.note
      (.retrying device attempt limit)) :=
  works.trans ⟨rfl, rfl, [.noted (.retrying device attempt limit)], by simp [Event.isWork],
    history_record _ _⟩

theorem settleQuery_reply (link : Link) (exchange : Exchange) :
    (link.settleQuery exchange).2 = exchange.settle := by
  unfold settleQuery
  split
  · rename_i failed
    exact failed.symm
  · rfl

end Link

namespace Agent

variable {a : Agent} {line : Line}

theorem pauseFor_quiet {next : Line} (quiet : line.Quiet next) (delay : Number) (stage : Stage) :
    line.Quiet (a.pauseFor delay stage next).2.1 := by
  unfold pauseFor
  split
  · exact quiet
  · exact ⟨quiet.readings, quiet.controls, quiet.link⟩

theorem takeRequest_quiet (a : Agent) (line : Line) : line.Quiet (a.takeRequest line).2.1 := by
  unfold takeRequest
  split
  · exact ⟨rfl, rfl, .refl _⟩
  · exact ⟨rfl, rfl, .refl _⟩
  · simp only
    split
    · exact ⟨rfl, rfl, .refl _⟩
    · refine pauseFor_quiet ?_ _ _
      exact ⟨rfl, rfl, .refl _⟩

theorem ask_quiet (a : Agent) (line : Line) (r : Request) (attempt : Nat) :
    line.Quiet (a.ask line r attempt).2.1 := by
  have begun := line.link.beginQuery_works r
  unfold ask
  split
  · exact ⟨rfl, rfl, .refl _⟩
  · split
    · rename_i begins
      rw [begins] at begun
      exact ⟨rfl, rfl, begun⟩
    · rename_i begins
      rw [begins] at begun
      simp only
      split
      · exact ⟨rfl, rfl, begun⟩
      · exact ⟨rfl, rfl, begun⟩

theorem settle_quiet (a : Agent) (line : Line) (r : Request) (attempt : Nat) (exchange : Exchange) :
    line.Quiet (a.settle line r attempt exchange).2.1 := by
  have settled := line.link.settleQuery_works exchange
  unfold settle
  split
  · rename_i settles
    rw [settles] at settled
    simp only
    split
    · exact ⟨rfl, rfl, settled⟩
    · exact ⟨rfl, rfl, settled⟩
  · rename_i settles
    rw [settles] at settled
    refine pauseFor_quiet ?_ _ _
    exact ⟨rfl, rfl, settled.fault r.device attempt a.settings.attempts⟩
  · rename_i settles
    rw [settles] at settled
    exact ⟨rfl, rfl, settled⟩

/-- Every step is quiet, or puts the reading or the control that the agent holds. -/
theorem step_effect (a : Agent) (line : Line) :
    line.Quiet (a.step line).2.1 ∨
      (∃ reading, a.stage = .delivering reading ∧ (a.step line).2.1 = line.deliver reading) ∨
      ∃ control, a.stage = .reporting control ∧
        (a.step line).2.1 = (line.report control).acknowledge := by
  unfold step
  cases stage : a.stage with
  | idle => exact .inl (takeRequest_quiet a line)
  | asking r attempt => exact .inl (ask_quiet a line r attempt)
  | waiting r attempt exchange => exact .inl (settle_quiet a line r attempt exchange)
  | delivering reading =>
    simp only
    split
    · exact .inl ⟨rfl, rfl, .refl _⟩
    · exact .inr (.inl ⟨reading, rfl, rfl⟩)
  | reporting control =>
    simp only
    split
    · exact .inl ⟨rfl, rfl, .refl _⟩
    · exact .inr (.inr ⟨control, rfl, rfl⟩)
  | settling r => exact .inl ⟨rfl, rfl, .refl _⟩
  | retrying r attempt => exact .inl ⟨rfl, rfl, .refl _⟩
  | ended outcome => exact .inl ⟨rfl, rfl, .refl _⟩

/-- What an agent neither does nor puts is on record after its steps as it was before. -/
theorem step_recorded {kind : Event → Option α} (a : Agent) (line : Line)
    (work : ∀ e : Event, e.isWork → kind e = none)
    (delivered : ∀ reading, kind (.delivered reading) = none)
    (reported : ∀ control, kind (.reported control) = none) :
    (a.step line).2.1.link.recorded kind = line.link.recorded kind := by
  rcases a.step_effect line with quiet | ⟨reading, _, put⟩ | ⟨control, _, put⟩
  · exact quiet.link.recorded work
  · rw [put]
    exact line.link.recorded_none (delivered reading)
  · rw [put]
    exact line.link.recorded_none (reported control)

theorem step_now (a : Agent) (line : Line) : (a.step line).2.1.now = line.now := by
  rcases a.step_effect line with quiet | ⟨reading, _, put⟩ | ⟨control, _, put⟩
  · exact quiet.link.now
  · rw [put]
    rfl
  · rw [put]
    rfl

theorem cancel_quiet (a : Agent) (line : Line) : line.Quiet (a.cancel line).2 := by
  unfold cancel
  split
  · exact ⟨rfl, rfl, .refl _⟩
  · exact ⟨rfl, rfl, Link.works_record _ rfl⟩
  · exact ⟨rfl, rfl, Link.works_record _ rfl⟩

end Agent

end MeterPolling
