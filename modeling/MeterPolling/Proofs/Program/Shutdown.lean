import MeterPolling.Proofs.Config.Devices
import MeterPolling.Proofs.Program.Operate
/-!
The program ends in good order. Whatever it was at when it failed, finished or was interrupted: all
its tasks have ended before it closes the port, it closes the port once, and nothing is read
afterwards. It ends with the failure that came first, unless it was interrupted.
-/
namespace MeterPolling.Program

/-- Whoever used the link is done with it; where there were tasks something went wrong. -/
structure Rested (holder : Holder) (mishap : Option Mishap) : Prop where
  finished : holder.Finished
  hurt : ∀ p, holder = .tasks p → mishap.isSome = true

/-- What holds of the program at each of its stages, by what opening the port comes to. -/
inductive Sane : Except Failure Unit → State → Prop where
  | opening : link.Unread → Sane link.openPort.2 ⟨.opening, .alone link, false, false, none⟩
  | refused : link.Unread →
      Sane (.error f) ⟨.ended (.broken f), .alone link, false, false, some (.failure f)⟩
  | openingCut : link.Unread →
      Sane result ⟨.ended .cut, .alone link, false, true, some .interruption⟩
  | scanning : link.Open → Accounts scanner interrupted mishap →
      Sane (.ok ()) ⟨.scanning scanner, .alone link, true, interrupted, mishap⟩
  | polling : p.line.link.Open → p.Tended interrupted → Blames p interrupted mishap →
      Sane (.ok ()) ⟨.polling, .tasks p, true, interrupted, mishap⟩
  | leaving : holder.link.Open → Rested holder mishap → Fits ending interrupted mishap →
      Sane (.ok ()) ⟨.leaving ending, holder, true, interrupted, mishap⟩
  | ended : holder.link.Closed → Rested holder mishap → Fits ending interrupted mishap →
      Sane (.ok ()) ⟨.ended ending, holder, true, interrupted, mishap⟩

variable {c : Config} {scan : Bool} {link : Link} {holder : Holder} {p : Polling}
  {mishap : Option Mishap} {s t : State} {result : Except Failure Unit}

theorem rested_alone (link : Link) (mishap : Option Mishap) : Rested (.alone link) mishap :=
  ⟨trivial, fun _ same => by cases same⟩

/-- Tasks that have ended do nothing more, whatever becomes of the link. -/
theorem Rested.stepTask (rested : Rested (.tasks p) mishap) (task : Polling.Task) :
    (p.stepTask task).1 = p ∧
      mishap.or (((p.stepTask task).1.failed? task).map .failure) = mishap :=
  ⟨Polling.stepTask_ended (rested.finished task), Option.or_of_isSome (rested.hurt p rfl)⟩

theorem Rested.withLink (rested : Rested holder mishap) (link : Link) :
    Rested (holder.withLink link) mishap := by
  cases holder with
  | alone => exact rested_alone link mishap
  | tasks p =>
    exact ⟨fun task => (Polling.SameTasks.hasEnded ⟨rfl, rfl, rfl, rfl, rfl⟩ task).trans
      (rested.finished task), fun _ _ => rested.hurt p rfl⟩

@[simp]
theorem Holder.link_withLink (holder : Holder) (link : Link) :
    (holder.withLink link).link = link := by
  cases holder <;> rfl

theorem plan_sane (c : Config) (scan : Bool) (opened : link.Open) :
    Sane (.ok ()) ((plan c scan link).state link) := by
  rcases plan_cases c scan link with ⟨f, planned⟩ | ⟨producers, planned⟩ | ⟨devices, _, planned⟩
  · rw [planned]
    exact .leaving opened (rested_alone _ _) (fits_broken f false)
  · rw [planned]
    exact .scanning opened ⟨fun _ => by simp [Scanner.make], fun _ => rfl⟩
  · rw [planned]
    exact .polling opened (crew_tended c devices link) ⟨rfl, rfl, rfl⟩

/-- The clock disturbs nothing. -/
theorem Sane.setNow (sane : Sane result s) (now : Binary64) :
    Sane result { s with holder := s.holder.setNow now } := by
  cases sane with
  | opening unread =>
    rw [← Link.openPort_setNow _ now]
    exact .opening (unread.setNow now)
  | refused unread => exact .refused (unread.setNow now)
  | openingCut unread => exact .openingCut (unread.setNow now)
  | scanning opened accounts => exact .scanning (opened.setNow now) accounts
  | polling opened tended blames =>
    exact .polling (opened.setNow now) (tended.withLink _) (blames.congr rfl rfl)
  | leaving opened rested fits =>
    refine .leaving ?_ (rested.withLink _) fits
    rw [Holder.setNow, Holder.link_withLink]
    exact opened.setNow now
  | ended closed rested fits =>
    refine .ended ?_ (rested.withLink _) fits
    rw [Holder.setNow, Holder.link_withLink]
    exact closed.setNow now

/-- Nor does a task, even after the program has left it. -/
theorem Sane.stepTask {stage : Stage} {opened interrupted : Bool}
    (sane : Sane result ⟨stage, .tasks p, opened, interrupted, mishap⟩) (task : Polling.Task) :
    Sane result ⟨stage, .tasks (p.stepTask task).1, opened, interrupted,
      mishap.or (((p.stepTask task).1.failed? task).map .failure)⟩ := by
  cases sane with
  | polling opened tended blames =>
    exact .polling (Polling.stepTask_open opened task) (tended.stepTask task)
      (blames.stepTask tended task)
  | leaving opened rested fits =>
    obtain ⟨same, blame⟩ := rested.stepTask task
    rw [blame, same]
    exact .leaving opened rested fits
  | ended closed rested fits =>
    obtain ⟨same, blame⟩ := rested.stepTask task
    rw [blame, same]
    exact .ended closed rested fits

theorem Sane.dropAgent {stage : Stage} {opened interrupted : Bool}
    (sane : Sane result ⟨stage, .tasks p, opened, interrupted, mishap⟩)
    (idle : p.agent.stage = .idle) :
    Sane result ⟨stage, .tasks p.dropAgent, opened, interrupted, mishap⟩ := by
  -- an agent that has ended is not idle
  have unfinished : ¬ Holder.Finished (.tasks p) := fun finished => by
    have ended := finished .agent
    simp [Polling.hasEnded, Agent.outcome?, idle] at ended
  cases sane with
  | polling opened tended blames => exact .polling opened tended.dropAgent (blames.congr rfl rfl)
  | leaving opened rested fits => exact absurd rested.finished unfinished
  | ended closed rested fits => exact absurd rested.finished unfinished

/-- Every move keeps the program in order. -/
theorem Sane.move (sane : Sane result s) (move : Moves c scan s t) : Sane result t := by
  cases move with
  | opens opened =>
    cases sane with
    | opening unread =>
      rw [opened]
      exact plan_sane c scan (Link.openPort_open unread opened)
  | refused f refused =>
    cases sane with
    | opening unread =>
      have unread := unread.openPort
      rw [refused] at unread ⊢
      exact .refused unread
  | openingCut suspended =>
    cases sane with
    | opening unread => exact .openingCut unread.connecting
  | scans =>
    cases sane with
    | scanning opened accounts => exact .scanning (Scanner.step_open _ opened) (accounts.step _)
  | scanCut active =>
    cases sane with
    | scanning opened accounts =>
      exact .scanning (Scanner.cancel_open _ opened) (accounts_cancel active _ _)
  | scanned ended =>
    cases sane with
    | scanning opened accounts => exact .leaving opened (rested_alone _ _) (accounts.fits ended)
  | task task => exact sane.stepTask task
  | dropped told idle => exact sane.dropAgent idle
  | supervises =>
    cases sane with
    | polling opened tended blames =>
      refine .polling ?_ tended.stepSupervisor (blames.stepSupervisor tended)
      rw [Polling.stepSupervisor_line]
      exact opened
  | pollCut unfinished =>
    cases sane with
    | polling opened tended blames => exact .polling opened tended.halt blames.halt
  | pollCutLate unfinished failed =>
    cases sane with
    | polling opened tended blames =>
      exact .polling opened tended.interrupt (blames.interrupt failed)
  | polled isDone =>
    cases sane with
    | polling opened tended blames =>
      obtain ⟨told, ended⟩ := tended.finished isDone
      exact .leaving opened ⟨ended, fun _ _ => blames.hurt told⟩ (blames.fits told)
  | overtaken isDone interrupted =>
    cases sane with
    | polling opened tended blames =>
      obtain ⟨told, ended⟩ := tended.finished isDone
      subst interrupted
      exact .leaving opened ⟨ended, fun _ _ => blames.hurt told⟩ (fits_cut _)
  | waits now => exact sane.setNow now
  | closes =>
    cases sane with
    | leaving opened rested fits =>
      refine .ended ?_ (rested.withLink _) fits
      rw [Holder.closePort, Holder.link_withLink]
      exact opened.closePort

theorem Sane.run (sane : Sane result s) (run : Reaches c scan s t) : Sane result t := by
  induction run with
  | refl => exact sane
  | tail _ move ih => exact ih.move move

structure Orderly (result : Except Failure Unit) (s : State) : Prop where
  /-- The port is not closed before the end. -/
  unclosed : (∀ ending, s.stage ≠ .ended ending) → .closed ∉ s.link.history
  /-- Every task has ended before it is closed. -/
  finished : ∀ ending, s.stage = .leaving ending ∨ s.stage = .ended ending → s.holder.Finished
  /-- An open port is closed once, and nothing follows. -/
  closed : ∀ ending, s.stage = .ended ending → s.opened = true → s.link.Closed
  /-- A port that could not be opened ends the program, and nothing was read. -/
  refused : ∀ f, result = .error f → s.opened = false ∧ s.link.Unread ∧
    ∀ ending, s.stage = .ended ending → s.interrupted = false → ending = .broken f
  /-- Nothing else than an interruption keeps it from using a port that can be opened. -/
  used : result = .ok () → ∀ ending, s.stage = .ended ending → s.opened = false →
    ending = .cut ∧ s.interrupted = true ∧ s.link.Unread
  /-- What went wrong first ends it, unless there was an interruption later. -/
  fits : ∀ ending, s.stage = .ended ending → Fits ending s.interrupted s.mishap

theorem Sane.orderly (sane : Sane result s) : Orderly result s := by
  cases sane with
  | opening unread =>
    exact ⟨fun _ => unread.unclosed, by simp, by simp, fun _ _ => ⟨rfl, unread, by simp⟩, by simp,
      by simp⟩
  | refused unread =>
    refine ⟨fun _ => unread.unclosed, fun _ _ => trivial, by simp, ?_, by simp, ?_⟩
    · rintro f same
      cases same
      exact ⟨rfl, unread, fun ending same _ => by cases same; rfl⟩
    · rintro ending same
      cases same
      exact fits_broken _ _
  | openingCut unread =>
    refine ⟨fun _ => unread.unclosed, fun _ _ => trivial, by simp, ?_, ?_, ?_⟩
    · exact fun f _ => ⟨rfl, unread, by simp⟩
    · rintro _ ending same _
      cases same
      exact ⟨rfl, rfl, unread⟩
    · rintro ending same
      cases same
      exact fits_cut _
  | scanning opened accounts =>
    exact ⟨fun _ => opened.unclosed, by simp, by simp, by simp, by simp, by simp⟩
  | polling opened tended blames =>
    exact ⟨fun _ => opened.unclosed, by simp, by simp, by simp, by simp, by simp⟩
  | leaving opened rested fits =>
    exact ⟨fun _ => opened.unclosed, fun _ _ => rested.finished, by simp, by simp, by simp, by simp⟩
  | ended closed rested fits =>
    refine ⟨fun unfinished => absurd rfl (unfinished _), fun _ _ => rested.finished,
      fun _ _ _ => closed, by simp, by simp, ?_⟩
    rintro ending same
    cases same
    exact fits

theorem firstLink_unread {o : CommandLine.Options} {s : Surroundings} {r : Run} {preset : Preset}
    (noted : ∀ entry ∈ r.journal, ∃ notice, entry.event = .noted notice) :
    (firstLink c o s r preset).Unread := by
  refine ⟨fun e member => ?_, fun client made => by cases made⟩
  obtain ⟨entry, there, rfl⟩ := List.mem_map.mp member
  exact noted entry (List.mem_reverse.mp there)

/-- So is the program as it runs by itself, from its command line to its end. -/
theorem operate_orderly {o : CommandLine.Options} {s : Surroundings} {r : Run} {preset : Preset}
    (usable : c.preset = .ok preset)
    (noted : ∀ entry ∈ r.journal, ∃ notice, entry.event = .noted notice)
    (rests : ∀ link devices, (firstLink c o s r preset).openPort = (link, .ok ()) →
      c.devices .shipped = .ok devices → Rests (crew c devices link) s.limit) :
    ∃ t ending, Orderly (firstLink c o s r preset).openPort.2 t ∧ t.stage = .ended ending ∧
      operate c o s r = (r.after t.link).conclude ending := by
  obtain ⟨t, ending, reached, ended, ends⟩ := operate_reaches usable rests
  exact ⟨t, ending, ((Sane.opening (firstLink_unread noted)).run reached).orderly, ended, ends⟩

/-- Whatever the configuration and the bus, whatever the order of the tasks, and whenever it is
interrupted: the program is in good order, at its end and at each moment before. -/
theorem Reaches.shuts_down_in_order (unread : link.Unread)
    (reached : Reaches c scan (.start link) t) : Orderly link.openPort.2 t :=
  ((Sane.opening unread).run reached).orderly

/-! ## A client that fails -/

def unplugged : Bus where
  opening := .connects true
  copiesTimeout := true
  reply _ _ := .answered (some (.real (.ofQuotient false 1 100))) (.raised ⟨.runtime, "unplugged"⟩)

def lonely : Config where
  settings := [("com_port", .text "/dev/ttyUSB0"), ("baud", .number (.integer 9600)),
    ("parity", .text "N"), ("device_ids", .list [.text "1:sdm"]),
    ("poll_interval", .number (.integer 5))]
  isUsable := true
  isUnsaved := false

def lonelyLink : Link :=
  firstLink lonely .initial ⟨.toml, .missing, [], unplugged, 60⟩
    ⟨.finished, .missing, none, .zero, [], .info⟩ .b9600n

theorem lonely_devices : lonely.devices .shipped = .ok [(1, .sdm)] := by
  have found : (lonely.devices .shipped).toOption = some [(1, .sdm)] := by
    rw [Registry.shipped_eq]
    decide +kernel
  cases devices : lonely.devices .shipped with
  | error f => simp [devices, Except.toOption] at found
  | ok devices' => simpa [devices, Except.toOption] using found

def lonelyCrew : Polling := crew lonely [(1, .sdm)] lonelyLink.openPort.1

def lonelyRound : Polling :=
  { lonelyCrew with
    scheduler := { lonelyCrew.scheduler with
      stage := .queueing
        (Producer.sdm.registers.map fun e => Producer.sdm.requestFor 1 e.1 e.2) 0 .zero } }

/-- A request is put and asked, and another is put; the read fails, and all tasks end. -/
def lonelyOrder : List (Option Polling.Task) := [some .scheduler, some .agent, some .agent,
  some .agent, some .scheduler, some .agent, none, none, some .agent, some .scheduler,
  some .controlsReporter, some .readingsReporter, none]

def lonelyLast : Polling :=
  lonelyOrder.foldl (fun p task => (Polling.supervised.step task p).1) lonelyRound

/-- The registers of the meter are in the order of their addresses. -/
theorem lonelyCrew_begins :
    (Polling.supervised.step (some .scheduler) lonelyCrew).1 = lonelyRound := by
  have sorted : (Producer.sdm.registers.mergeSort fun a b => a.2.address ≤ b.2.address) =
      Producer.sdm.registers := List.mergeSort_of_pairwise (by decide)
  have round : Scheduler.round [(1, .sdm)] =
      Producer.sdm.registers.map fun e => Producer.sdm.requestFor 1 e.1 e.2 := by
    simp only [Scheduler.round, Producer.requests, List.flatMap_cons, List.flatMap_nil, sorted,
      List.append_nil]
  rw [lonelyRound, ← round]
  rfl

theorem lonelyCrew_polls :
    Polls lonely false (.start lonelyLink) false lonelyCrew := by
  have opened : Reaches lonely false (.start lonelyLink)
      ((plan lonely false lonelyLink.openPort.1).state lonelyLink.openPort.1) :=
    .single (.opens rfl)
  rw [plan, lonely_devices] at opened
  exact ⟨none, opened⟩

/-- The first read fails while the scheduler still has requests to put. All tasks end, the port is
closed, and the program ends with the failure of the client. -/
theorem unplugged_shuts_down_in_order :
    lonelyLink.Unread ∧ ∃ t, Reaches lonely false (.start lonelyLink) t ∧
      t.stage = .ended (.broken (.client ⟨.runtime, "unplugged"⟩)) ∧
      (t.link.recorded Event.call?).length = 1 ∧ Orderly lonelyLink.openPort.2 t := by
  have unread : lonelyLink.Unread := firstLink_unread fun _ member => by cases member
  have first := lonelyCrew_polls.task (some .scheduler)
  rw [lonelyCrew_begins] at first
  obtain ⟨mishap, reached⟩ : Polls lonely false (.start lonelyLink) false lonelyLast :=
    first.tasks lonelyOrder
  have isDone : lonelyLast.isDone = true := by decide +kernel
  have failed : lonelyLast.failure = some (.client ⟨.runtime, "unplugged"⟩) := by decide +kernel
  have asked : (lonelyLast.line.link.closePort.recorded Event.call?).length = 1 := by
    decide +kernel
  have ending : pollEnding lonelyLast = .broken (.client ⟨.runtime, "unplugged"⟩) := by
    unfold pollEnding
    rw [failed]
  obtain ⟨t, closed, ended, link⟩ := (reached.move (.polled isDone)).close
  rw [ending] at ended
  refine ⟨unread, t, closed, ended, ?_, Reaches.shuts_down_in_order unread closed⟩
  rw [link]
  exact asked

end MeterPolling.Program
