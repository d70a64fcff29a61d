import MeterPolling.Proofs.Query
import MeterPolling.Session.Script
/-!
The three copies of the timeout never part, and no block leaves its own timeout behind. What a
session goes through is any sequence of operations, with blocks inside blocks; between two operations
the bus may become another one, so that each attempt to open the port may end differently.
-/
namespace MeterPolling

structure Client.Holds (c : Client) (timeout : Number) : Prop where
  own : c.timeout = timeout
  copy : ∀ copy, c.timeoutCopy = some copy → copy = timeout

theorem Client.Holds.waits {c : Client} {timeout : Number} (holds : c.Holds timeout) :
    c.effectiveTimeout = timeout := by
  unfold effectiveTimeout
  cases kept : c.timeoutCopy with
  | none => exact holds.own
  | some copy => exact holds.copy copy kept

namespace Session

variable {s : Session}

def Coherent (s : Session) : Prop := ∀ client, s.client = some client → client.Holds s.timeout

/-- Whatever read the session begins, on whatever bus, the client waits for the session's timeout,
and that is what goes on record. -/
def AsksWithin (s : Session) : Prop :=
  ∀ (link next : Link) (call : Call) (exchange : Exchange), link.session = s →
    link.beginRead call = (next, .ok exchange) →
    ∃ client, s.client = some client ∧
      exchange = link.bus.exchange s.timeout client.calls call ∧
      next.journal = ⟨link.now, .called call s.timeout⟩ :: link.journal

theorem make_coherent (port : String) (preset : Preset) (verbose : Bool) :
    (make port preset verbose).Coherent := by
  intro client present
  cases present

/-- Setting the timeout brings the copies together, wherever they were before. -/
theorem setTimeout_coherent (s : Session) (timeout : Number) : (s.setTimeout timeout).Coherent := by
  intro client present
  obtain ⟨old, _, rfl⟩ := Option.map_eq_some_iff.mp present
  constructor
  · rfl
  · intro copy kept
    obtain ⟨_, _, rfl⟩ := Option.map_eq_some_iff.mp kept
    rfl

theorem newClient_holds (s : Session) (bus : Bus) : (s.newClient bus).Holds s.timeout := by
  constructor
  · rfl
  · intro copy kept
    unfold newClient at kept
    split at kept <;> cases kept
    rfl

theorem Coherent.openPort (coherent : s.Coherent) (bus : Bus) : (s.openPort bus).1.Coherent := by
  have fresh := s.newClient_holds bus
  unfold Session.openPort
  intro client present
  split at present
  case h_1 => exact coherent client present
  all_goals
    cases present
    exact ⟨fresh.own, fresh.copy⟩

theorem Coherent.closePort (coherent : s.Coherent) : s.closePort.Coherent := by
  intro client present
  obtain ⟨old, was, rfl⟩ := Option.map_eq_some_iff.mp present
  have holds := coherent old was
  exact ⟨holds.own, holds.copy⟩

theorem Coherent.begin (coherent : s.Coherent) (bus : Bus) (call : Call) :
    (s.begin bus call).1.Coherent := by
  unfold Session.begin
  split
  · exact coherent
  · split
    · exact coherent
    · rename_i old was
      intro client present
      cases present
      have holds := coherent old was
      exact ⟨holds.own, holds.copy⟩

theorem Coherent.asksWithin (coherent : s.Coherent) : s.AsksWithin := by
  rintro link next call exchange rfl begins
  cases known : isReadFunction call.function with
  | false => simp [Link.beginRead, Session.begin, known] at begins
  | true =>
    cases present : link.session.client with
    | none => simp [Link.beginRead, Session.begin, known, present] at begins
    | some client =>
      rw [Link.beginRead_known known present, (coherent client present).waits] at begins
      cases begins
      exact ⟨client, rfl, rfl, rfl⟩

end Session

namespace Link

theorem session_openPort (link : Link) :
    link.openPort.1.session = (link.session.openPort link.bus).1 := by
  unfold openPort
  by_cases verbose : link.session.verbose = true <;> simp only [verbose, if_true]
  all_goals split <;> rfl

theorem session_closePort (link : Link) : link.closePort.session = link.session.closePort := by
  unfold closePort
  split <;> rfl

theorem session_beginRead (link : Link) (call : Call) :
    (link.beginRead call).1.session = (link.session.begin link.bus call).1 := by
  unfold beginRead
  rcases link.session.begin link.bus call with ⟨session, result⟩
  cases result <;> rfl

theorem session_await {link waited : Link} {exchange : Exchange}
    (waits : link.await? exchange = some waited) : waited.session = link.session := by
  unfold await? at waits
  obtain ⟨pause, _, waits⟩ := Option.bind_eq_some_iff.mp waits
  split at waits <;> cases waits <;> rfl

theorem session_read (link : Link) (call : Call) :
    (link.read call).1.session = (link.session.begin link.bus call).1 := by
  rw [← session_beginRead]
  unfold read
  split
  · rename_i begun
    rw [begun]
  · rename_i begun
    rw [begun]
    split
    · rename_i waits
      exact session_await waits
    · rfl

end Link

namespace Session

inductive Performs : Link → List Step → Link → Prop where
  | stops (link : Link) : Performs link [] link
  | changes {link changed next : Link} {steps : List Step}
      (same : changed.session = link.session) (goes : Performs changed steps next) :
      Performs link steps next
  | opens {link next : Link} {steps : List Step}
      (goes : Performs link.openPort.1 steps next) :
      Performs link (⟨.opened link.openPort.2, link.openPort.1⟩ :: steps) next
  | closes {link next : Link} {steps : List Step}
      (goes : Performs link.closePort steps next) :
      Performs link (⟨.closed, link.closePort⟩ :: steps) next
  | reads {link next : Link} {steps : List Step} (call : Call)
      (goes : Performs (link.read call).1 steps next) :
      Performs link (⟨.read (link.read call).2, (link.read call).1⟩ :: steps) next
  | sets {link next : Link} {steps : List Step} (timeout : Number)
      (goes : Performs (link.setTimeout timeout) steps next) :
      Performs link (⟨.timeoutSet, link.setTimeout timeout⟩ :: steps) next
  /-- The block remembers the timeout from before it, and sets it at its end, early or not. -/
  | overrides {link inner next : Link} {body steps : List Step} (timeout : Number)
      (early : Option ClientError)
      (does : Performs (link.setTimeout timeout) body inner)
      (goes : Performs (inner.setTimeout link.session.timeout) steps next) :
      Performs link
        (⟨.overrideEntered, link.setTimeout timeout⟩ :: (body ++
          ⟨.overrideLeft early, inner.setTimeout link.session.timeout⟩ :: steps)) next

variable {link next inner : Link} {steps body : List Step}

theorem Performs.append (first : Performs link body inner) (second : Performs inner steps next) :
    Performs link (body ++ steps) next := by
  induction first with
  | stops => exact second
  | changes same _ ih => exact .changes same (ih second)
  | opens _ ih => exact .opens (ih second)
  | closes _ ih => exact .closes (ih second)
  | reads call _ ih => exact .reads call (ih second)
  | sets timeout _ ih => exact .sets timeout (ih second)
  | overrides timeout early does _ _ ih =>
    rw [List.cons_append, List.append_assoc, List.cons_append]
    exact .overrides timeout early does (ih second)

mutual

/-- What an operation does is what a session can go through; the run lists it latest first. -/
theorem run_performs (op : Operation) (link : Link) (done : List Step) :
    ∃ steps, (op.run link done).2 = steps.reverse ++ done ∧
      Performs link steps (op.run link done).1 := by
  match op with
  | .openPort => exact ⟨[_], rfl, .opens (.stops _)⟩
  | .closePort => exact ⟨[_], rfl, .closes (.stops _)⟩
  | .read call => exact ⟨[_], rfl, .reads call (.stops _)⟩
  | .setTimeout timeout => exact ⟨[_], rfl, .sets timeout (.stops _)⟩
  | .override timeout body early =>
    obtain ⟨steps, listed, does⟩ := runAll_performs body (link.setTimeout timeout)
      (⟨.overrideEntered, link.setTimeout timeout⟩ :: done)
    refine ⟨_, ?_, .overrides timeout early does (.stops _)⟩
    simp only [Operation.run, listed]
    simp

theorem runAll_performs (ops : List Operation) (link : Link) (done : List Step) :
    ∃ steps, (runAll ops link done).2 = steps.reverse ++ done ∧
      Performs link steps (runAll ops link done).1 := by
  match ops with
  | [] => exact ⟨[], rfl, .stops link⟩
  | op :: rest =>
    obtain ⟨first, listed, does⟩ := run_performs op link done
    obtain ⟨second, listed', goes⟩ := runAll_performs rest (op.run link done).1
      (op.run link done).2
    refine ⟨first ++ second, ?_, ?_⟩
    · rw [runAll, listed', listed, List.reverse_append, List.append_assoc]
    · rw [runAll]
      exact does.append goes

end

theorem Performs.coherent (performs : Performs link steps next) (coherent : link.session.Coherent) :
    ∀ step ∈ steps, step.link.session.Coherent := by
  induction performs with
  | stops => simp
  | changes same _ ih => exact ih (same ▸ coherent)
  | @opens link _ _ _ ih =>
    have after : link.openPort.1.session.Coherent := link.session_openPort ▸ coherent.openPort _
    exact List.forall_mem_cons.mpr ⟨after, ih after⟩
  | @closes link _ _ _ ih =>
    have after : link.closePort.session.Coherent := link.session_closePort ▸ coherent.closePort
    exact List.forall_mem_cons.mpr ⟨after, ih after⟩
  | @reads link _ _ call _ ih =>
    have after : (link.read call).1.session.Coherent :=
      link.session_read call ▸ coherent.begin _ _
    exact List.forall_mem_cons.mpr ⟨after, ih after⟩
  | @sets link _ _ timeout _ ih =>
    have after := link.session.setTimeout_coherent timeout
    exact List.forall_mem_cons.mpr ⟨after, ih after⟩
  | @overrides link inner _ _ _ timeout early _ _ ihBody ih =>
    have entered := link.session.setTimeout_coherent timeout
    have left := inner.session.setTimeout_coherent link.session.timeout
    refine List.forall_mem_cons.mpr ⟨entered, List.forall_mem_append.mpr ⟨ihBody entered, ?_⟩⟩
    exact List.forall_mem_cons.mpr ⟨left, ih left⟩

/-- What an observer of the steps finds who writes down the timeout at the beginning of each block:
at its end the timeout is the one written down last, and at the end of all no block is left open. -/
def Restores (blocks : List Number) (current : Number) : List Step → Prop
  | [] => blocks = []
  | step :: rest =>
    match step.effect, blocks with
    | .overrideEntered, blocks => Restores (current :: blocks) step.link.session.timeout rest
    | .overrideLeft _, [] => False
    | .overrideLeft _, saved :: outer =>
      step.link.session.timeout = saved ∧ Restores outer step.link.session.timeout rest
    | _, blocks => Restores blocks step.link.session.timeout rest

theorem Performs.restores_append (performs : Performs link steps next) (blocks : List Number)
    (rest : List Step) :
    Restores blocks link.session.timeout (steps ++ rest) ↔
      Restores blocks next.session.timeout rest := by
  induction performs generalizing blocks rest with
  | stops => rfl
  | changes same _ ih => rw [← ih, same]
  | opens _ ih => exact ih blocks rest
  | closes _ ih => exact ih blocks rest
  | reads _ _ ih => exact ih blocks rest
  | sets _ _ ih => exact ih blocks rest
  | @overrides link inner _ body steps timeout early _ _ ihBody ih =>
    let left : Step := ⟨.overrideLeft early, inner.setTimeout link.session.timeout⟩
    rw [← ih, List.cons_append, List.append_assoc, List.cons_append]
    calc
      _ ↔ Restores (link.session.timeout :: blocks) inner.session.timeout
            (left :: (steps ++ rest)) := ihBody _ _
      _ ↔ _ := and_iff_right rfl

/-- From a session whose copies agree, whatever is done with it and however blocks are nested and
left: after every step the copies agree and a read waits for the session's timeout, and each block
leaves the timeout that it found. -/
theorem Performs.keeps_one_timeout (performs : Performs link steps next)
    (coherent : link.session.Coherent) :
    (∀ s ∈ link.session :: steps.map (·.link.session), s.Coherent ∧ s.AsksWithin) ∧
      Restores [] link.session.timeout steps := by
  constructor
  · have all : ∀ s ∈ link.session :: steps.map (·.link.session), s.Coherent :=
      List.forall_mem_cons.mpr ⟨coherent, List.forall_mem_map.mpr (performs.coherent coherent)⟩
    intro s member
    exact ⟨all s member, (all s member).asksWithin⟩
  · have walked := (performs.restores_append [] []).mpr rfl
    rwa [List.append_nil] at walked

def unopened : Link :=
  .make ⟨.connects true, true, fun _ _ => .silence⟩ (make "a" .b9600n false) false

/-- The port is opened under another timeout, and an error ends a block within the block. -/
def nested : List Operation :=
  [.override 2
    [.openPort,
      .override 1 [.read ⟨3, 0, 1, 7⟩, .setTimeout 5] (some noResponse),
      .read ⟨3, 0, 1, 7⟩] none,
    .read ⟨3, 0, 1, 7⟩]

theorem nested_keeps_one_timeout :
    unopened.session.Coherent ∧
      (runAll nested unopened []).2.reverse.map (·.link.session.timeout) =
        [2, 2, 1, 1, 5, 2, 2, defaultTimeout, defaultTimeout] ∧
      (∀ s ∈ unopened.session ::
          (runAll nested unopened []).2.reverse.map (·.link.session), s.Coherent ∧ s.AsksWithin) ∧
      Restores [] unopened.session.timeout (runAll nested unopened []).2.reverse := by
  have coherent : unopened.session.Coherent := make_coherent _ _ _
  obtain ⟨steps, listed, performs⟩ := runAll_performs nested unopened []
  have inOrder : (runAll nested unopened []).2.reverse = steps := by
    rw [listed, List.append_nil, List.reverse_reverse]
  refine ⟨coherent, by decide +kernel, ?_⟩
  rw [inOrder]
  exact performs.keeps_one_timeout coherent

end Session

end MeterPolling
