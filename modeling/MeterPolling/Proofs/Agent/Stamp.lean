import MeterPolling.Proofs.Agent.Effect
import MeterPolling.Proofs.Agent.Run
/-!
Each reading that is put was made at an earlier moment of the run, when the agent looked at the reply
to its request. The time of that moment is the one that the reading carries, however long it then
waits for room.
-/
namespace MeterPolling.Agent

/-- A moment of a run at which the agent holds the reply that a reading is made of, and at which the
clock shows what the reading says. -/
def ReadAt (a₀ : Agent) (line₀ : Line) (reading : Reading) : Prop :=
  ∃ puts a line attempt exchange bytes, Run a₀ line₀ puts a line ∧
    a.stage = .waiting reading.request attempt exchange ∧ line.now = reading.readAt ∧
    exchange.settle = .ok bytes ∧ reading.request.decoder.decode bytes = .ok reading.value

variable {a a₀ : Agent} {line line₀ : Line} {puts : List (Option Request)} {reading : Reading}
  {settings : Settings}

theorem fail_stage (a : Agent) (line : Line) (f : Failure) :
    (a.fail line f).1.stage = .ended (.failed f) := rfl

theorem pauseFor_stage (a : Agent) (delay : Number) (stage : Stage) (line : Line) :
    (a.pauseFor delay stage line).1.stage = stage ∨
      (a.pauseFor delay stage line).1.stage = .ended (.failed .tooLarge) := by
  unfold pauseFor
  split
  · exact .inl rfl
  · exact .inr rfl

theorem takeRequest_delivers_not (idle : a.stage = .idle) (reading : Reading) :
    (a.takeRequest line).1.stage ≠ .delivering reading := by
  unfold takeRequest
  split
  · simp [idle]
  · simp
  · simp only
    split
    · simp
    · rcases pauseFor_stage a a.settings.settleDelay _ _ with paused | failed
      · rw [paused]
        simp
      · rw [failed]
        simp

theorem ask_delivers_not (a : Agent) (line : Line) (r : Request) (attempt : Nat)
    (reading : Reading) : (a.ask line r attempt).1.stage ≠ .delivering reading := by
  unfold ask
  split
  · simp
  · split
    · simp [fail_stage]
    · simp only
      split
      · simp
      · simp [fail_stage]

/-- What is delivered after a reply is its value at that moment. -/
theorem settle_delivers {r : Request} {attempt : Nat} {exchange : Exchange}
    (delivers : (a.settle line r attempt exchange).1.stage = .delivering reading) :
    reading.request = r ∧ line.now = reading.readAt ∧
      ∃ bytes, exchange.settle = .ok bytes ∧ r.decoder.decode bytes = .ok reading.value := by
  have now := (line.link.settleQuery_works exchange).now
  have reply := line.link.settleQuery_reply exchange
  unfold settle at delivers
  split at delivers
  · rename_i bytes settles
    rw [settles] at now reply
    simp only at delivers
    split at delivers
    · rename_i value decoded
      cases delivers
      exact ⟨rfl, now.symm, bytes, reply.symm, decoded⟩
    · cases delivers
  · rcases pauseFor_stage a a.settings.retryDelay (.retrying r attempt) _ with paused | failed
    · cases paused.symm.trans delivers
    · cases failed.symm.trans delivers
  · cases delivers

/-- An agent comes to hold a reading only by a reply. -/
theorem step_delivers (delivers : (a.step line).1.stage = .delivering reading) :
    a.stage = .delivering reading ∨
      ∃ attempt exchange bytes, a.stage = .waiting reading.request attempt exchange ∧
        line.now = reading.readAt ∧ exchange.settle = .ok bytes ∧
        reading.request.decoder.decode bytes = .ok reading.value := by
  unfold step at delivers
  cases stage : a.stage with
  | idle =>
    rw [stage] at delivers
    exact absurd delivers (takeRequest_delivers_not stage reading)
  | asking r attempt =>
    rw [stage] at delivers
    exact absurd delivers (ask_delivers_not a line r attempt reading)
  | waiting r attempt exchange =>
    rw [stage] at delivers
    obtain ⟨rfl, now, bytes, reply, decoded⟩ := settle_delivers delivers
    exact .inr ⟨attempt, exchange, bytes, rfl, now, reply, decoded⟩
  | delivering held =>
    rw [stage] at delivers
    simp only at delivers
    split at delivers
    · exact .inl (stage.symm.trans delivers)
    · cases delivers
  | reporting control =>
    rw [stage] at delivers
    simp only at delivers
    split at delivers
    · exact absurd (stage.symm.trans delivers) (by simp)
    · cases delivers
  | settling r =>
    rw [stage] at delivers
    cases delivers
  | retrying r attempt =>
    rw [stage] at delivers
    cases delivers
  | ended outcome =>
    rw [stage] at delivers
    exact absurd (stage.symm.trans delivers) (by simp)

def Stamped (a₀ : Agent) (line₀ : Line) (a : Agent) (line : Line) : Prop :=
  ∀ reading, reading ∈ line.link.recorded Event.reading? ∨ a.stage = .delivering reading →
    ReadAt a₀ line₀ reading

theorem Stamped.step (stamped : Stamped a₀ line₀ a line) (run : Run a₀ line₀ puts a line) :
    Stamped a₀ line₀ (a.step line).1 (a.step line).2.1 := by
  rintro reading (member | delivers)
  · rcases step_effect a line with quiet | ⟨held, stage, put⟩ | ⟨control, stage, put⟩
    · rw [quiet.link.readings] at member
      exact stamped reading (.inl member)
    · have found : (Event.delivered held).reading? = some held := rfl
      rw [put, Line.deliver, Link.recorded_some line.link found] at member
      rcases List.mem_append.mp member with member | same
      · exact stamped reading (.inl member)
      · rw [List.mem_singleton.mp same]
        exact stamped held (.inr stage)
    · rw [put, Line.acknowledge, Line.report, Link.recorded_none line.link rfl] at member
      exact stamped reading (.inl member)
  · rcases step_delivers delivers with held | ⟨attempt, exchange, bytes, moment⟩
    · exact stamped reading (.inr held)
    · exact ⟨puts, a, line, attempt, exchange, bytes, run, moment⟩

theorem Run.stamped (unused : line₀.link.Unused) (run : Run (make settings) line₀ puts a line) :
    Stamped (make settings) line₀ a line := by
  induction run with
  | start =>
    rintro reading (member | delivers)
    · rw [unused.unread] at member
      cases member
    · cases delivers
  | step run ih => exact ih.step run
  | @cancel _ a line _ ih =>
    rintro reading (member | delivers)
    · rw [(cancel_quiet a line).link.readings] at member
      exact ih reading (.inl member)
    · unfold Agent.cancel at delivers
      split at delivers
      · rename_i ended
        cases ended.symm.trans delivers
      · cases delivers
      · cases delivers
  | put item _ ih => exact ih
  | aside _ aside ih =>
    intro reading
    rw [aside.readings]
    exact ih reading

end MeterPolling.Agent
