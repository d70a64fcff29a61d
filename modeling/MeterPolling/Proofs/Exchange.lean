import MeterPolling.Proofs.Decoding
import MeterPolling.Proofs.Scanner.Run
/-!
What becomes of a request, asked over a link in any state. It is refused, or there is no client that
could be asked, or it is one call, which ends as the bus has it unless the wait for it is too long.
Nothing is assumed of what went on before.
-/
namespace MeterPolling

/-- A call with the timeout under which it was made. -/
def Event.asked? : Event → Option (Call × Number)
  | .called call timeout => some (call, timeout)
  | _ => none

/-- The calls that are made for a request after earlier ones, the latest first, and what comes of it.
The client, where there is one, waits for so long. -/
def Request.fate (r : Request) (bus : Bus) (waits : Option Number) (earlier : List Call) :
    List Call × Except Failure (List UInt8) :=
  match r.refusal?, waits with
  | some f, _ => ([], .error f)
  | none, none => ([], .error .missingPart)
  | none, some timeout =>
    ([r.call],
      if (bus.exchange timeout earlier r.call).pause?.isSome then bus.outcome earlier r.call
      else .error .tooLarge)

namespace Request

variable {r : Request} {bus : Bus} {waits : Option Number} {timeout : Number} {earlier : List Call}

theorem fate_refused {f : Failure} (refused : r.refusal? = some f) :
    r.fate bus waits earlier = ([], .error f) := by
  simp only [fate, refused]

theorem fate_clientless (accepted : r.refusal? = none) :
    r.fate bus none earlier = ([], .error .missingPart) := by
  simp only [fate, accepted]

theorem fate_endless (accepted : r.refusal? = none)
    (endless : (bus.exchange timeout earlier r.call).pause? = none) :
    r.fate bus (some timeout) earlier = ([r.call], .error .tooLarge) := by
  simp [fate, accepted, endless]

theorem fate_asked (accepted : r.refusal? = none)
    (waits : (bus.exchange timeout earlier r.call).pause?.isSome) :
    r.fate bus (some timeout) earlier = ([r.call], bus.outcome earlier r.call) := by
  simp [fate, accepted, waits]

/-- The four things that can become of a request. -/
theorem fate_cases (r : Request) (bus : Bus) (waits : Option Number) (earlier : List Call) :
    (∃ f, r.refusal? = some f ∧ r.fate bus waits earlier = ([], .error f)) ∨
      (waits = none ∧ r.fate bus waits earlier = ([], .error .missingPart)) ∨
      r.fate bus waits earlier = ([r.call], .error .tooLarge) ∨
      r.fate bus waits earlier = ([r.call], bus.outcome earlier r.call) := by
  cases refusal : r.refusal? with
  | some f => exact .inl ⟨f, rfl, fate_refused refusal⟩
  | none =>
    cases waits with
    | none => exact .inr (.inl ⟨rfl, fate_clientless refusal⟩)
    | some timeout =>
      cases length : (bus.exchange timeout earlier r.call).pause? with
      | none => exact .inr (.inr (.inl (fate_endless refusal length)))
      | some pause =>
        exact .inr (.inr (.inr (fate_asked refusal (Option.isSome_of_eq_some length))))

/-- Registers come from the bus. -/
theorem fate_ok {bytes : List UInt8} (replied : (r.fate bus waits earlier).2 = .ok bytes) :
    bus.outcome earlier r.call = .ok bytes := by
  rcases r.fate_cases bus waits earlier with ⟨f, _, fate⟩ | ⟨_, fate⟩ | fate | fate
  all_goals rw [fate] at replied
  case inr.inr.inr => exact replied
  all_goals cases replied

end Request

namespace Link

def waits (link : Link) : Option Number := link.session.client.map (·.effectiveTimeout)

/-- Between two moments these calls were made over a link, each under this timeout. -/
structure Gains (timeout : Number) (link next : Link) (calls : List Call) : Prop where
  bus : next.bus = link.bus
  made : next.made = calls.reverse ++ link.made
  asked : next.recorded Event.asked? = link.recorded Event.asked? ++ calls.map (·, timeout)

variable {link middle next : Link} {calls more : List Call} {timeout : Number} {r : Request}
  {exchange : Exchange} {result : Except Failure Exchange}

theorem Gains.refl (link : Link) : Gains timeout link link [] := by
  constructor <;> simp

theorem Gains.trans (first : Gains timeout link middle calls)
    (second : Gains timeout middle next more) : Gains timeout link next (calls ++ more) := by
  constructor
  case bus => rw [second.bus, first.bus]
  case made => rw [second.made, first.made, List.reverse_append, List.append_assoc]
  case asked => rw [second.asked, first.asked, List.map_append, List.append_assoc]

theorem Gains.still (first : Gains timeout link middle calls)
    (second : Gains timeout middle next []) : Gains timeout link next calls := by
  have both := first.trans second
  rwa [List.append_nil] at both

theorem note_gains (link : Link) (notice : Notice) : Gains timeout link (link.note notice) [] := by
  constructor
  case asked => exact (recorded_none link rfl).trans (List.append_nil _).symm
  all_goals rfl

theorem setTimeout_gains (link : Link) (other : Number) :
    Gains timeout link (link.setTimeout other) [] := by
  constructor
  case made => exact (link.setTimeout_since other).made
  case asked => exact (List.append_nil _).symm
  case bus => rfl

theorem setNow_gains (link : Link) (now : Binary64) :
    Gains timeout link { link with now := now } [] := by
  constructor
  case asked => exact (List.append_nil _).symm
  all_goals rfl

theorem settleQuery_gains (link : Link) (exchange : Exchange) :
    Gains timeout link (link.settleQuery exchange).1 [] := by
  unfold settleQuery
  split
  · simp only
    split
    · exact note_gains link _
    · exact .refl link
  · exact .refl link

theorem settleQuery_waits (link : Link) (exchange : Exchange) :
    (link.settleQuery exchange).1.waits = link.waits := by
  unfold settleQuery
  split
  · simp only
    split <;> rfl
  · rfl

theorem setTimeout_waits (link : Link) (timeout : Number) :
    (link.setTimeout timeout).waits = link.session.client.map fun _ => timeout := by
  unfold waits setTimeout Session.setTimeout
  cases link.session.client with
  | none => rfl
  | some client =>
    obtain ⟨connected, old, copy, calls⟩ := client
    cases copy <;> rfl

/-- A read that can be made is one call. -/
theorem beginRead_gains {client : Client} {call : Call}
    (known : Session.isReadFunction call.function = true)
    (present : link.session.client = some client) :
    Gains client.effectiveTimeout link (link.beginRead call).1 [call] := by
  have made : link.made = client.calls := by simp [Link.made, present]
  have found : (Event.called call client.effectiveTimeout).asked? =
      some (call, client.effectiveTimeout) := rfl
  rw [beginRead_known known present]
  constructor
  case bus => rfl
  case made =>
    rw [made]
    rfl
  case asked => exact recorded_some _ found

inductive Begins (link : Link) (r : Request) : Link × Except Failure Exchange → Prop where
  | refused (f : Failure) : r.refusal? = some f → Begins link r (link, .error f)
  | clientless (next : Link) : r.refusal? = none → link.session.client = none →
      (∀ timeout, Gains timeout link next []) → next.waits = link.waits →
      Begins link r (next, .error .missingPart)
  | asks (next : Link) (timeout : Number) : r.refusal? = none → link.waits = some timeout →
      Gains timeout link next [r.call] → next.waits = link.waits →
      Begins link r (next, .ok (link.bus.exchange timeout link.made r.call))

theorem beginQuery_begins (link : Link) (r : Request) : Begins link r (link.beginQuery r) := by
  cases refusal : r.refusal? with
  | some f =>
    rw [beginQuery_refused refusal]
    exact .refused f refusal
  | none =>
    have known := (refusal_none refusal).2
    rw [beginQuery_handed refusal]
    cases present : link.session.client with
    | none =>
      have begun : Link.beginRead { link with counters := link.counters.addRequest } r.call =
          ({ link with counters := link.counters.addRequest }, .error .missingPart) := by
        simp [beginRead, Session.begin, Request.call, known, present]
      rw [begun]
      refine .clientless _ refusal present (fun timeout => ?_) rfl
      constructor
      case asked => exact (List.append_nil _).symm
      all_goals rfl
    | some client =>
      have made : link.made = client.calls := by simp [Link.made, present]
      have waits : link.waits = some client.effectiveTimeout := by simp [Link.waits, present]
      let counted : Link := { link with counters := link.counters.addRequest }
      have still : counted.session.client = some client := present
      have readable : Session.isReadFunction r.call.function = true := known
      have gains := beginRead_gains readable still
      rw [beginRead_known readable still, ← made] at gains ⊢
      exact .asks _ client.effectiveTimeout refusal waits ⟨gains.bus, gains.made, gains.asked⟩
        waits.symm

/-- A query without anything else going on gives what becomes of its request. -/
theorem query_fate (link : Link) (r : Request) :
    (link.query r).2 = (r.fate link.bus link.waits link.made).2 := by
  have begins := link.beginQuery_begins r
  unfold query Request.fate
  generalize link.beginQuery r = begun at begins
  cases begins with
  | refused f refusal => simp only [refusal]
  | clientless next accepted absent gains waits =>
    have closed : link.waits = none := by simp [Link.waits, absent]
    simp only [accepted, closed]
  | asks next timeout accepted waits gains still =>
    simp only [accepted, waits]
    unfold await?
    have settled := Bus.exchange_settle link.bus timeout link.made r.call
    generalize link.bus.exchange timeout link.made r.call = exchange at settled ⊢
    cases length : exchange.pause? with
    | none => rfl
    | some pause => cases pause <;> exact (settleQuery_reply _ _).trans settled

end Link

end MeterPolling
