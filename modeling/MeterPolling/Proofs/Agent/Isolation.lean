import MeterPolling.Proofs.Agent.Finish
import MeterPolling.Proofs.Agent.Lengths
/-!
Devices are isolated from each other. Where a run comes to the order to stop, and each device answers
as its own calls so far have it, any run on the requests for some of the devices alone comes there
too, and shows of these what the whole run shows of them.
-/
namespace MeterPolling

/-- What a part has on record of an agent's work is what the whole has of it for these devices, in the
same order. -/
structure Link.Shows (kept : Int → Bool) (whole part : Link) : Prop where
  deeds : part.deeds = whole.deeds.filter (Deed.concerns kept)
  calls : part.recorded Event.call? = Bus.own kept (whole.recorded Event.call?)
  results : (part.recorded Event.reading?).map Reading.result =
    ((whole.recorded Event.reading?).map Reading.result).filter fun r => kept r.1.device
  controls : part.recorded Event.control? =
    (whole.recorded Event.control?).filter fun c => kept c.device

theorem Link.shows_of_deeds {kept : Int → Bool} {whole part : Link}
    (deeds : part.deeds = whole.deeds.filter (Deed.concerns kept)) : whole.Shows kept part where
  deeds := deeds
  calls := by rw [← deeds_calls, ← deeds_calls, deeds, concerns_calls]
  results := by rw [← deeds_results, ← deeds_results, deeds, concerns_results]
  controls := by rw [← deeds_controls, ← deeds_controls, deeds, concerns_controls]

namespace Agent

variable {bus : Bus} {timeout : Number} {kept : Int → Bool} {settings : Settings} {a a' : Agent}
  {line₀ line₀' line line' : Line} {puts puts' fed feed : List (Option Request)}

/-- An agent that has ended as it was told has gone through all of its course. -/
theorem Account.told (account : Account bus timeout settings fed a line) (part : fed <+: feed)
    (told : a.stage = .ended .told) :
    ∃ cases, bus.course settings.attempts [] feed = (cases, some .told) ∧
      line.link.ledger = Case.ledger cases ∧ ∀ c ∈ cases, c.ending? = none := by
  obtain ⟨_, _, taken, rfl, stands⟩ := account
  rw [told] at stands
  obtain ⟨before, cases, rfl, whole, ledger⟩ := stands
  have sentinel := Bus.course_sentinel whole
  obtain ⟨rest, rfl⟩ := (List.prefix_append _ line.requests.items).trans part
  refine ⟨cases, ?_, ledger, Bus.course_goes_on whole⟩
  rw [Bus.course_ended (congrArg Prod.snd sentinel), sentinel]

theorem Account.unfailed {f : Failure} (account : Account bus timeout settings fed a line)
    (part : fed <+: feed) (told : (bus.course settings.attempts [] feed).2 = some .told)
    (along : TimelyAlong bus timeout settings (bus.course settings.attempts [] feed).1) :
    a.stage ≠ .ended (.failed f) := by
  obtain ⟨_, _, taken, rfl, stands⟩ := account
  exact stands.unfailed ((List.prefix_append taken _).trans part) told along

/-- On a course that comes to the order to stop, an agent that is not cancelled rests only after it has
stopped. -/
theorem Account.rests_told (account : Account bus timeout settings feed a line)
    (told : (bus.course settings.attempts [] feed).2 = some .told)
    (along : TimelyAlong bus timeout settings (bus.course settings.attempts [] feed).1)
    (rests : a.Rests line) (uncancelled : a.stage ≠ .ended .cancelled) :
    a.stage = .ended .told := by
  rcases rests with ⟨idle, empty⟩ | ⟨outcome, ended⟩
  · obtain ⟨_, _, taken, rfl, stands⟩ := account
    rw [idle] at stands
    obtain ⟨cases, whole, -⟩ := stands
    rw [empty, List.append_nil, whole] at told
    cases told
  · cases outcome with
    | told => exact ended
    | failed f => exact absurd ended (account.unfailed (List.prefix_refl _) told along)
    | cancelled => exact absurd ended uncancelled

/-- From wherever it is on such a course, an agent that is not cancelled can come to its end. -/
theorem Run.reaches_told (unused : line₀.link.Unused) (run : Run (make settings) line₀ puts a line)
    (part : line₀.requests.items ++ puts <+: feed)
    (told : (line₀.link.bus.course settings.attempts [] feed).2 = some .told)
    (along : TimelyAlong line₀.link.bus line₀.link.timeout settings
      (line₀.link.bus.course settings.attempts [] feed).1)
    (uncancelled : a.stage ≠ .ended .cancelled) :
    ∃ more a' line', line₀.requests.items ++ puts ++ more = feed ∧ Run a line more a' line' ∧
      a'.stage = .ended .told := by
  obtain ⟨more, rfl⟩ := part
  obtain ⟨next, fed⟩ := (Run.start : Run a line [] a line).putAll more
  obtain ⟨a', line', on, rests, uncancelled⟩ := (run.trans fed).comes_to_rest unused uncancelled
  have finished := fed.trans on
  rw [List.append_nil, List.nil_append] at finished
  have account := (run.trans finished).account unused
  rw [← List.append_assoc] at account
  exact ⟨more, a', line', rfl, finished, account.rests_told told along rests uncancelled⟩

/-- Each device answers as its own calls so far have it, and a run came to the order to stop. A run on
the requests for some of the devices alone, be it a single one or all but one that never answers,
does not fail; at any moment it has done the first of the deeds that concern them in the whole run;
it can go on until it is told to stop, and then it has done them all. -/
theorem Run.devices_are_isolated (kept : Int → Bool) (separate : line₀.link.bus.Separate)
    (unused : line₀.link.Unused) (unused' : line₀'.link.Unused)
    (bus : line₀'.link.bus = line₀.link.bus) (timeout : line₀'.link.timeout = line₀.link.timeout)
    (run : Run (make settings) line₀ puts a line) (told : a.stage = .ended .told)
    (run' : Run (make settings) line₀' puts' a' line')
    (part : line₀'.requests.items ++ puts' <+: (line₀.requests.items ++ puts).filter (stays kept)) :
    line'.link.deeds <+: line.link.deeds.filter (Deed.concerns kept) ∧
      (∀ f, a'.stage ≠ .ended (.failed f)) ∧
      (a'.stage = .ended .told → line.link.Shows kept line'.link) ∧
      (a'.stage ≠ .ended .cancelled → ∃ more a'' line'',
        line₀'.requests.items ++ puts' ++ more =
          (line₀.requests.items ++ puts).filter (stays kept) ∧
        Run a' line' more a'' line'' ∧ a''.stage = .ended .told) := by
  obtain ⟨cases, whole, ledger, goes_on⟩ := (run.account unused).told (List.prefix_refl _) told
  have deeds : line.link.deeds = Case.trace cases := congrArg Ledger.deeds ledger
  have along : TimelyAlong line₀.link.bus line₀.link.timeout settings cases :=
    (run.timelySoFar unused fun f => by rw [told]; simp).along ledger goes_on
  have own : line₀.link.bus.course settings.attempts []
      ((line₀.requests.items ++ puts).filter (stays kept)) =
        (cases.filter (Case.concerns kept), some .told) := separate.course whole
  generalize (line₀.requests.items ++ puts).filter (stays kept) = feed at own part ⊢
  have ended : (line₀.link.bus.course settings.attempts [] feed).2 = some .told := by rw [own]
  have timely : TimelyAlong line₀.link.bus line₀.link.timeout settings
      (line₀.link.bus.course settings.attempts [] feed).1 := by
    rw [own]
    exact along.filter separate
  have account := run'.account unused'
  rw [bus, timeout] at account
  refine ⟨?_, fun f => account.unfailed part ended timely, fun told' => ?_, fun uncancelled => ?_⟩
  · have traced := account.trace part
    rwa [own, Case.trace_filter, ← deeds] at traced
  · obtain ⟨cases', whole', ledger', -⟩ := account.told part told'
    obtain ⟨rfl, -⟩ := Prod.mk.inj (whole'.symm.trans own)
    refine Link.shows_of_deeds ?_
    rw [deeds, ← Case.trace_filter]
    exact congrArg Ledger.deeds ledger'
  · rw [← bus] at ended timely
    rw [← timeout] at timely
    exact run'.reaches_told unused' part ended timely uncancelled

/-- Meters of which the second never answers, while each other leaves every other of its own calls
unanswered. -/
def patchy : Bus where
  opening := .connects true
  copiesTimeout := false
  reply earlier call :=
    if call.device = 2 ∨ (earlier.countP (·.device == call.device)) % 2 = 0 then .silence
    else .answered none (.registers [0x4366, 0x8000])

def patchyLine (devices : List Int) : Line where
  link := (Link.make patchy (.make "/dev/ttyUSB0" .b9600n false) false).openPort.1
  requests :=
    ⟨devices.map (fun device => some ⟨device, 4, 0, 2, .raw32, some "VolLocPhsA"⟩) ++ [none], 0,
      devices.length + 1⟩
  readings := .empty 0
  controls := .empty 0

theorem patchyLine_unused (devices : List Int) : (patchyLine devices).link.Unused := by
  have fresh : (Link.make patchy (.make "/dev/ttyUSB0" .b9600n false) false).ledger =
      ⟨[], .fresh⟩ := rfl
  exact Link.openPort_unused fresh rfl

theorem patchy_separate : patchy.Separate := by
  intro earlier call
  simp only [patchy, List.countP_filter, Bool.and_self]

/-- The first meter is asked for two readings, with requests for the others between them and without:
it answers at the second call each time. -/
theorem Run.first_meter_is_isolated :
    let line := patchyLine [1, 2, 3, 1]
    let part := patchyLine [1, 1]
    let last := (make .default).advance 50 line
    let last' := (make .default).advance 20 part
    line.link.bus.Separate ∧ line.link.Unused ∧ part.link.Unused ∧
      part.link.bus = line.link.bus ∧ part.link.timeout = line.link.timeout ∧
      Run (make .default) line [] last.1 last.2 ∧ last.1.stage = .ended .told ∧
      Run (make .default) part [] last'.1 last'.2 ∧ last'.1.stage = .ended .told ∧
      part.requests.items ++ [] <+: (line.requests.items ++ []).filter (stays (· == 1)) ∧
      last.2.link.Shows (· == 1) last'.2.link := by
  intro line part last last'
  have separate : line.link.bus.Separate := patchy_separate
  have unused := patchyLine_unused [1, 2, 3, 1]
  have unused' := patchyLine_unused [1, 1]
  have bus : part.link.bus = line.link.bus := rfl
  have timeout : part.link.timeout = line.link.timeout := rfl
  have run : Run (make .default) line [] last.1 last.2 := Run.start.advance 50
  have run' : Run (make .default) part [] last'.1 last'.2 := Run.start.advance 20
  have told : last.1.stage = .ended .told := by decide +kernel
  have told' : last'.1.stage = .ended .told := by decide +kernel
  have own : part.requests.items ++ [] <+: (line.requests.items ++ []).filter (stays (· == 1)) :=
    List.prefix_refl _
  obtain ⟨-, -, shows, -⟩ :=
    Run.devices_are_isolated (· == 1) separate unused unused' bus timeout run told run' own
  exact ⟨separate, unused, unused', bus, timeout, run, told, run', told', own, shows told'⟩

end Agent

end MeterPolling
