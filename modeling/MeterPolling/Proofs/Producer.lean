import MeterPolling.Proofs.Agent.Moves
import MeterPolling.Proofs.Scanner.Course
import MeterPolling.Proofs.Scanner.Report
/-!
The requests that producers build. Such a request asks for as many registers as its decoder takes, so
that whatever comes back can be decoded; the count is chosen where the request is built, checked where
the reply comes in and once more before it is decoded. Whoever works on such requests, an agent or a
scanner, is brought down by nothing but what the client raises on its own account.
-/
namespace MeterPolling

/-- A decoder decodes just the bytes that fill its registers. -/
theorem Decoder.decode_iff (d : Decoder) (bytes : List UInt8) :
    (∃ value, d.decode bytes = .ok value) ↔ bytes.length = 2 * d.registerCount := by
  constructor
  · rintro ⟨value, decoded⟩
    unfold decode Encoding.read at decoded
    simp only at decoded
    split at decoded
    · cases decoded
    · rename_i filled
      exact Decidable.not_not.mp filled
  · exact d.decode_fits

inductive Producer.Builds (p : Producer) : Request → Prop where
  | labelled {device : Int} {label : String} {r : Request} :
      p.request device label = .ok r → p.Builds r
  | probe {device : Int} {r : Request} : p.probe device = .ok r → p.Builds r
  | reading {device : Int} {r : Request} : r ∈ p.requests device → p.Builds r

def Producer.Reads (p : Producer) : Prop := p.function = 3 ∨ p.function = 4

/-- Every register in a reply holds sixteen bits, however many there are. -/
def Bus.HoldsWords (bus : Bus) : Prop :=
  ∀ earlier call count value, (bus.reply earlier call).answer ≠ .misfit count value

/-- A failure that is none of the program's own: the client raised an error that does not belong to
the protocol of the line, or a pause is past the end of the clock. -/
inductive Failure.IsForeign : Failure → Prop where
  | raised (e : ClientError) : e.isProtocol = false → IsForeign (.client e)
  | overlong : IsForeign .tooLarge

structure Request.Readable (r : Request) : Prop where
  accepted : r.refusal? = none
  fits : r.Fits

/-- What comes of a request when all is well apart from the line and the client. The decoder takes
bytes of just this number. -/
inductive Request.Comes (r : Request) : Except Failure (List UInt8) → Prop where
  | decoded (bytes : List UInt8) (value : Binary64) :
      (∀ other, (∃ value, r.decoder.decode other = .ok value) ↔ other.length = bytes.length) →
      r.decoder.decode bytes = .ok value → Comes r (.ok bytes)
  | fault (fault : TransportFault) : Comes r (.error (.transport fault))
  | foreign (f : Failure) : f.IsForeign → Comes r (.error f)

variable {p : Producer} {producers : List Producer} {r : Request} {f : Failure} {bus : Bus}
  {result : Except Failure (List UInt8)} {device : Int} {label : String}

namespace Producer

theorem request_built (built : p.request device label = .ok r) :
    ∃ register, r = p.requestFor device label register := by
  unfold request at built
  split at built
  · rename_i register found
    cases built
    exact ⟨register, rfl⟩
  · cases built

/-- However it comes about, a request is built for a label and a register. -/
theorem Builds.register (builds : p.Builds r) :
    ∃ device label register, r = p.requestFor device label register := by
  cases builds with
  | labelled built =>
    obtain ⟨register, same⟩ := request_built built
    exact ⟨_, _, register, same⟩
  | probe built =>
    obtain ⟨register, same⟩ := request_built built
    exact ⟨_, _, register, same⟩
  | reading member =>
    obtain ⟨entry, _, rfl⟩ := List.mem_map.mp member
    exact ⟨_, _, _, rfl⟩

theorem Builds.readable (reads : p.Reads) (builds : p.Builds r) : r.Readable := by
  obtain ⟨device, label, register, rfl⟩ := builds.register
  refine ⟨?_, p.requestFor_fits device label register⟩
  have some_registers : 0 < register.decoder.registerCount := by
    unfold Decoder.registerCount
    cases register.decoder.encoding <;> decide
  have known : Session.isReadFunction p.function = true := by
    rcases reads with holding | input
    · rw [holding]
      rfl
    · rw [input]
      rfl
  have counted : ¬ (p.requestFor device label register).count ≤ 0 := by
    change ¬ (register.decoder.registerCount : Int) ≤ 0
    omega
  unfold Request.refusal?
  rw [if_neg counted]
  exact if_pos known

/-- Every label of the table has its request. -/
theorem request_label (device : Int) (member : label ∈ p.registers.map Prod.fst) :
    ∃ r, p.request device label = .ok r := by
  unfold request
  cases found : p.registers.lookup label with
  | some register => exact ⟨_, rfl⟩
  | none =>
    obtain ⟨entry, there, rfl⟩ := List.mem_map.mp member
    simpa using List.lookup_eq_none_iff.mp found entry there

end Producer

namespace Request

theorem Comes.unconfigured (comes : r.Comes (.error f)) : f.isConfiguration = false := by
  cases comes with
  | fault fault => rfl
  | foreign f foreign => cases foreign <;> rfl

/-- Only what is foreign ends the work on a request. -/
theorem Comes.foreign_of_raised (comes : r.Comes result) (raised : raised? result = some f) :
    f.IsForeign := by
  cases comes with
  | decoded bytes value accepts decoded => cases raised
  | fault fault => cases raised
  | foreign g foreign =>
    obtain ⟨same, _⟩ := raised_some raised
    cases same
    exact foreign

theorem Readable.outcome (readable : r.Readable) (words : bus.HoldsWords) (earlier : List Call) :
    r.Comes (bus.outcome earlier r.call) := by
  cases answer : (bus.reply earlier r.call).answer with
  | registers registers =>
    cases settled : bus.outcome earlier r.call with
    | ok bytes =>
      have length := Exchange.settle_length settled
      change (bytes.length : Int) = 2 * r.count at length
      rw [readable.fits] at length
      have filled : bytes.length = 2 * r.decoder.registerCount := by omega
      obtain ⟨value, decoded⟩ := r.decoder.decode_fits filled
      refine .decoded bytes value (fun other => ?_) decoded
      rw [filled]
      exact r.decoder.decode_iff other
    | error f =>
      unfold Bus.outcome Exchange.settle at settled
      simp only [answer] at settled
      split at settled
      · cases settled
      · cases settled
        exact .fault _
  | misfit count value => exact absurd answer (words earlier r.call count value)
  | exception code =>
    unfold Bus.outcome Exchange.settle
    simp only [answer]
    exact .fault _
  | raised e =>
    unfold Bus.outcome Exchange.settle
    simp only [answer]
    cases own : e.isProtocol with
    | true => exact .fault _
    | false => exact .foreign _ (.raised e own)

/-- On a link with a client, a request of this kind comes to one of these ends. -/
theorem Readable.fate (readable : r.Readable) (words : bus.HoldsWords) (timeout : Number)
    (earlier : List Call) : r.Comes (r.fate bus (some timeout) earlier).2 := by
  rcases r.fate_cases bus (some timeout) earlier with ⟨f, refused, _⟩ | ⟨none, _⟩ | fate | fate
  · rw [readable.accepted] at refused
    cases refused
  · cases none
  · rw [fate]
    exact .foreign _ .overlong
  · rw [fate]
    exact readable.outcome words earlier

end Request

theorem Link.waits_isSome (link : Link) : link.waits.isSome = link.session.client.isSome :=
  Option.isSome_map

/-! ## An agent that is given such requests -/

namespace Agent

def Stage.Sound : Stage → Prop
  | .settling r | .asking r _ | .retrying r _ => r.Readable
  | .waiting r _ exchange => r.Readable ∧ r.Comes exchange.settle
  | .ended (.failed f) => f.IsForeign
  | _ => True

/-- Requests of this kind are queued and in hand, and there is a client to ask. -/
structure Reading (bus : Bus) (a : Agent) (line : Line) : Prop where
  bus : line.link.bus = bus
  opened : line.link.waits.isSome
  queued : ∀ r, some r ∈ line.requests.items → r.Readable
  stage : a.stage.Sound

variable {a a' : Agent} {line line' line₀ : Line} {settings : Settings} {stage : Stage}
  {puts : List (Option Request)} {delay : Number} {move : Agent × Line × Pause}

theorem Reading.goes (reading : Reading bus a line) (same : line'.link.bus = line.link.bus)
    (waits : line'.link.waits = line.link.waits)
    (fewer : ∀ item ∈ line'.requests.items, item ∈ line.requests.items) (sound : a'.stage.Sound) :
    Reading bus a' line' :=
  ⟨same.trans reading.bus, waits ▸ reading.opened, fun r member => reading.queued r (fewer _ member),
    sound⟩

theorem Reading.pausing (reading : Reading bus a line) (sound : stage.Sound)
    (pausing : Pausing a delay stage line move) : Reading bus move.1 move.2.1 := by
  cases pausing with
  | pauses pause found => exact reading.goes rfl rfl (fun _ => id) sound
  | fails endless => exact reading.goes rfl rfl (fun _ => id) Failure.IsForeign.overlong

theorem Reading.taking (reading : Reading bus a line) (taking : Taking a line move) :
    Reading bus move.1 move.2.1 := by
  cases taking with
  | waits empty => exact reading
  | told rest items =>
    refine reading.goes rfl rfl (fun item member => ?_) trivial
    rw [items]
    exact List.mem_cons_of_mem _ member
  | same r rest items known =>
    have readable : r.Readable := reading.queued r (by simp [items])
    refine reading.goes rfl rfl (fun item member => ?_) readable
    rw [items]
    exact List.mem_cons_of_mem _ member
  | other r rest result items other pausing =>
    have readable : r.Readable := reading.queued r (by simp [items])
    have left : Reading bus a (line.withLeft rest) := by
      refine reading.goes rfl rfl (fun item member => ?_) reading.stage
      rw [items]
      exact List.mem_cons_of_mem _ member
    exact left.pausing (show Stage.Sound (.settling r) from readable) pausing

theorem Reading.asking {number : Nat} (reading : Reading bus a line) (words : bus.HoldsWords)
    (readable : r.Readable) :
    Reading bus (a.ask line r number).1 (a.ask line r number).2.1 := by
  have begins := line.link.beginQuery_begins r
  unfold ask
  split
  · exact reading.goes rfl rfl (fun _ => id) trivial
  · generalize line.link.beginQuery r = begun at begins
    cases begins with
    | refused f refused =>
      rw [readable.accepted] at refused
      cases refused
    | clientless next accepted absent gains still =>
      have opened := reading.opened
      rw [line.link.waits_isSome, absent] at opened
      cases opened
    | asks next timeout accepted waits gains still =>
      have comes : r.Comes (line.link.bus.exchange timeout line.link.made r.call).settle := by
        rw [Bus.exchange_settle, reading.bus]
        exact readable.outcome words _
      simp only
      split
      · exact reading.goes gains.bus still (fun _ => id) ⟨readable, comes⟩
      · exact reading.goes gains.bus still (fun _ => id) Failure.IsForeign.overlong

theorem Reading.settling {number : Nat} {exchange : Exchange} (reading : Reading bus a line)
    (readable : r.Readable) (comes : r.Comes exchange.settle) :
    Reading bus (a.settle line r number exchange).1 (a.settle line r number exchange).2.1 := by
  have gains : Link.Gains 0 line.link (line.link.settleQuery exchange).1 [] :=
    line.link.settleQuery_gains exchange
  have same := gains.bus
  have waits := line.link.settleQuery_waits exchange
  have reply := line.link.settleQuery_reply exchange
  unfold settle
  generalize line.link.settleQuery exchange = settled at same waits reply ⊢
  obtain ⟨next, result⟩ := settled
  rw [← reply] at comes
  cases comes with
  | decoded bytes value accepts decoded =>
    simp only [decoded]
    exact reading.goes same waits (fun _ => id) trivial
  | fault fault =>
    have retries := pauseFor_pausing a a.settings.retryDelay (.retrying r number)
      (line.withLink ({ next with counters := next.counters.addReconnect }.note
        (.retrying r.device number a.settings.attempts)))
    have noted : Reading bus a
        (line.withLink ({ next with counters := next.counters.addReconnect }.note
          (.retrying r.device number a.settings.attempts))) :=
      reading.goes same waits (fun _ => id) reading.stage
    exact noted.pausing (show Stage.Sound (.retrying r number) from readable) retries
  | foreign f foreign =>
    cases foreign with
    | raised e other =>
      exact reading.goes same waits (fun _ => id) (Failure.IsForeign.raised e other)
    | overlong => exact reading.goes same waits (fun _ => id) Failure.IsForeign.overlong

theorem Reading.step (reading : Reading bus a line) (words : bus.HoldsWords) :
    Reading bus (a.step line).1 (a.step line).2.1 := by
  have sound := reading.stage
  unfold Agent.step
  cases stage : a.stage with
  | idle => exact reading.taking (takeRequest_taking a line)
  | settling r =>
    rw [stage] at sound
    exact reading.goes rfl rfl (fun _ => id) sound
  | asking r number =>
    rw [stage] at sound
    exact reading.asking words sound
  | waiting r number exchange =>
    rw [stage] at sound
    exact reading.settling sound.1 sound.2
  | retrying r number =>
    rw [stage] at sound
    exact reading.goes rfl rfl (fun _ => id) sound
  | delivering reading' =>
    simp only
    split
    · exact reading
    · exact reading.goes rfl rfl (fun _ => id) trivial
  | reporting control =>
    simp only
    split
    · exact reading
    · exact reading.goes rfl rfl (fun _ => id) trivial
  | ended outcome => exact reading

theorem Reading.cancel (reading : Reading bus a line) :
    Reading bus (a.cancel line).1 (a.cancel line).2 := by
  unfold Agent.cancel
  split
  · exact reading
  · exact reading.goes rfl rfl (fun _ => id) trivial
  · exact reading.goes rfl rfl (fun _ => id) trivial

theorem Run.reading (words : line₀.link.bus.HoldsWords) (opened : line₀.link.session.client.isSome)
    (run : Run (make settings) line₀ puts a line)
    (readable : ∀ r, some r ∈ line₀.requests.items ++ puts → r.Readable) :
    Reading line₀.link.bus a line := by
  induction run with
  | start =>
    refine ⟨rfl, line₀.link.waits_isSome.trans opened, fun r member => ?_, trivial⟩
    exact readable r (List.mem_append_left _ member)
  | step _ ih => exact (ih readable).step words
  | cancel _ ih => exact (ih readable).cancel
  | put item _ ih =>
    have reading := ih fun r member => by
      refine readable r ?_
      rw [← List.append_assoc]
      exact List.mem_append_left _ member
    refine ⟨reading.bus, reading.opened, fun r member => ?_, reading.stage⟩
    rcases List.mem_append.mp member with queued | put
    · exact reading.queued r queued
    · refine readable r ?_
      rw [List.mem_singleton.mp put]
      simp
  | aside _ aside ih =>
    have waits := congrArg (fun s : Session => s.client.map (·.effectiveTimeout)) aside.session
    refine (ih readable).goes aside.bus waits (fun item member => ?_) (ih readable).stage
    rw [← aside.requests]
    exact member

end Agent

/-! ## A scanner that probes with such producers -/

theorem Trial.mem_visit {waits : Option Number} {next : List Call → List Trial} {earlier : List Call}
    {t : Trial} (member : t ∈ visit bus waits next device producers earlier) :
    (∃ p ∈ producers, ∃ before, t = p.trial bus waits before device) ∨ ∃ before, t ∈ next before := by
  induction producers generalizing earlier with
  | nil => exact .inr ⟨earlier, member⟩
  | cons p left ih =>
    rw [visit] at member
    rcases List.mem_cons.mp member with rfl | later
    · exact .inl ⟨p, List.mem_cons_self, earlier, rfl⟩
    · split at later
      · exact .inr ⟨_, later⟩
      · refine (ih later).imp_left ?_
        rintro ⟨q, member, before, same⟩
        exact ⟨q, List.mem_cons_of_mem _ member, before, same⟩
      · cases later

theorem Trial.mem_sweep {waits : Option Number} {devices : List Int} {earlier : List Call} {t : Trial}
    (member : t ∈ sweep bus waits producers devices earlier) :
    ∃ p ∈ producers, ∃ device ∈ devices, ∃ before, t = p.trial bus waits before device := by
  induction devices generalizing earlier with
  | nil => cases member
  | cons device rest ih =>
    rcases mem_visit member with ⟨p, among, before, same⟩ | ⟨before, later⟩
    · exact ⟨p, among, device, List.mem_cons_self, before, same⟩
    · obtain ⟨p, among, device, there, before, same⟩ := ih later
      exact ⟨p, among, device, List.mem_cons_of_mem _ there, before, same⟩

/-- A probe raises what is foreign, unless its producer lacks the register that is probed. -/
theorem Producer.Reads.trial_raised (reads : p.Reads) (words : bus.HoldsWords) {timeout : Number}
    {earlier : List Call}
    (raised : raised? (p.trial bus (some timeout) earlier device).result = some f) :
    f.IsForeign ∨ f = .unknownLabel p.probeLabel ∧ p.registers.lookup p.probeLabel = none := by
  cases probed : p.probe device with
  | error g =>
    rw [Producer.trial_unprobed probed] at raised
    obtain ⟨same, _⟩ := raised_some raised
    cases same
    exact .inr (Producer.probe_error probed)
  | ok r =>
    rw [Producer.trial_probed probed] at raised
    have readable := Producer.Builds.readable reads (.probe probed)
    exact .inl ((readable.fate words timeout earlier).foreign_of_raised raised)

theorem Scanner.Run.failed {timeout delay : Number} {link₀ link : Link} {s : Scanner}
    (run : Run (make producers timeout delay) link₀ s link) (reads : ∀ p ∈ producers, p.Reads)
    (words : link₀.bus.HoldsWords) (opened : link₀.session.client.isSome)
    (failed : s.stage = .failed f) :
    f.IsForeign ∨
      ∃ p ∈ producers, f = .unknownLabel p.probeLabel ∧ p.registers.lookup p.probeLabel = none := by
  have course := run.onCourse
  unfold OnCourse at course
  rw [failed] at course
  rcases course.2 with ⟨⟨t, member, raised⟩, _⟩ | ⟨_, rfl, _⟩
  · obtain ⟨client, present⟩ := Option.isSome_iff_exists.mp opened
    unfold trials at member
    rw [present] at member
    obtain ⟨p, among, device, _, before, rfl⟩ := Trial.mem_sweep member
    exact ((reads p among).trial_raised words raised).imp_right fun unlabelled =>
      ⟨p, among, unlabelled⟩
  · exact .inl .overlong

/-! ## What all this means for producers -/

/-- What can be relied on when requests are built by these producers and asked over an open link whose
replies hold words of sixteen bits. -/
structure Producer.Reliable (producers : List Producer) : Prop where
  labelled : ∀ p ∈ producers, ∀ device, ∀ label ∈ p.registers.map Prod.fst,
    ∃ r, p.request device label = .ok r
  /-- No request is refused, and no reply to one is refused by its decoder. -/
  query : ∀ p ∈ producers, ∀ r, p.Builds r → ∀ link : Link, link.bus.HoldsWords →
    link.session.client.isSome →
    r.Comes (link.query r).2 ∧ ∀ f, (link.query r).2 = .error f → f.isConfiguration = false
  agent : ∀ settings line₀ puts a line, Agent.Run (.make settings) line₀ puts a line →
    line₀.link.bus.HoldsWords → line₀.link.session.client.isSome →
    (∀ r, some r ∈ line₀.requests.items ++ puts → ∃ p ∈ producers, p.Builds r) →
    ∀ f, a.stage = .ended (.failed f) → f.IsForeign
  scanner : ∀ timeout delay link₀ s link, Scanner.Run (.make producers timeout delay) link₀ s link →
    link₀.bus.HoldsWords → link₀.session.client.isSome → ∀ f, s.stage = .failed f →
    f.IsForeign ∨
      ∃ p ∈ producers, f = .unknownLabel p.probeLabel ∧ p.registers.lookup p.probeLabel = none

/-- Whatever their tables of registers, requests of producers that read registers are never refused
and never fail to be decoded. -/
theorem Producer.requests_are_decoded (reads : ∀ p ∈ producers, p.Reads) :
    Producer.Reliable producers := by
  constructor
  case labelled => exact fun p _ device label member => request_label device member
  case query =>
    intro p among r builds link words opened
    have readable := builds.readable (reads p among)
    obtain ⟨client, present⟩ := Option.isSome_iff_exists.mp opened
    have comes : r.Comes (link.query r).2 := by
      rw [link.query_fate, Link.waits, present]
      exact readable.fate words _ _
    refine ⟨comes, fun f failed => ?_⟩
    rw [failed] at comes
    exact comes.unconfigured
  case agent =>
    intro settings line₀ puts a line run words opened built f failed
    have reading := run.reading words opened fun r member => by
      obtain ⟨p, among, builds⟩ := built r member
      exact builds.readable (reads p among)
    have sound := reading.stage
    rwa [failed] at sound
  case scanner =>
    intro timeout delay link₀ s link run words opened f failed
    exact run.failed reads words opened failed

theorem Scanner.sparseBus_holdsWords : Scanner.sparseBus.HoldsWords := by
  intro earlier call count value
  unfold Scanner.sparseBus
  simp only
  split <;> exact fun misfit => by cases misfit

/-- The meter at the third address answers a probe with holding registers, and the answer is 230.5. -/
theorem Producer.plain_is_decoded :
    let p := Scanner.plain "holding" 3
    let r : Request := ⟨3, 3, 0, 2, .raw32, some "VolLocPhsA"⟩
    (∀ q ∈ [p], q.Reads) ∧ Producer.Reliable [p] ∧ p.probe 3 = .ok r ∧
      Scanner.sparseLink.bus.HoldsWords ∧
      (Scanner.sparseLink.query r).2 = .ok [0x43, 0x66, 0x80, 0x00] ∧
      r.decoder.decode [0x43, 0x66, 0x80, 0x00] = .ok (.ofQuotient false 461 2) := by
  intro p r
  have reads : ∀ q ∈ [p], q.Reads := fun q member => by
    rw [List.mem_singleton.mp member]
    exact .inl rfl
  have decoded : r.decoder.decode [0x43, 0x66, 0x80, 0x00] = .ok (.ofQuotient false 461 2) := by
    decide +kernel
  exact ⟨reads, requests_are_decoded reads, rfl, Scanner.sparseBus_holdsWords, rfl, decoded⟩

end MeterPolling
