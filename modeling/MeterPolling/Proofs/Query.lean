import MeterPolling.Proofs.Agent.Course
/-!
What a query does to a link, said once for its beginning and once for its end. All that an agent's
work leaves on a link is kept in a ledger: the deeds in order, and the counters.
-/
namespace MeterPolling

/-- The exchange that a call begins, given the earlier calls of the same client, the latest first. -/
def Bus.exchange (bus : Bus) (timeout : Number) (earlier : List Call) (call : Call) : Exchange :=
  match bus.reply earlier call with
  | .silence => ⟨call, some timeout, .raised noResponse⟩
  | .answered delay answer => ⟨call, delay, answer⟩

/-- However long it takes, an exchange ends as the bus has it. -/
theorem Bus.exchange_settle (bus : Bus) (timeout : Number) (earlier : List Call) (call : Call) :
    (bus.exchange timeout earlier call).settle = bus.outcome earlier call := by
  unfold exchange outcome
  cases bus.reply earlier call <;> rfl

theorem Exchange.endless {x : Exchange} (endless : x.pause? = none) :
    ∃ delay, x.wait = some delay ∧ Pause.ofDelay? delay = none := by
  unfold pause? at endless
  split at endless
  · cases endless
  · rename_i delay waits
    exact ⟨delay, waits, endless⟩

structure Ledger where
  deeds : List Deed
  counters : Counters
deriving DecidableEq

namespace Ledger

/-- Enters calls of one request, of which some are known to have failed. -/
def enter (l : Ledger) (r : Request) (made failed : Nat) : Ledger :=
  ⟨l.deeds ++ List.replicate made (.asked r.call),
    ⟨l.counters.requests + made, l.counters.reconnects + failed⟩⟩

def add (l : Ledger) (deed : Deed) : Ledger := { l with deeds := l.deeds ++ [deed] }

theorem enter_zero (l : Ledger) (r : Request) : l.enter r 0 0 = l := by simp [enter]

theorem enter_call (l : Ledger) (r : Request) (made failed : Nat) :
    (l.enter r made failed).enter r 1 0 = l.enter r (made + 1) failed := by
  simp [enter, List.replicate_succ', Nat.add_assoc]

theorem enter_fault (l : Ledger) (r : Request) (made failed : Nat) :
    (l.enter r made failed).enter r 0 1 = l.enter r made (failed + 1) := by
  simp [enter, Nat.add_assoc]

end Ledger

def Case.ledger (cases : List Case) : Ledger := ⟨Case.trace cases, Case.tally cases⟩

theorem Session.begin_known {bus : Bus} {s : Session} {client : Client} {call : Call}
    (known : Session.isReadFunction call.function = true) (present : s.client = some client) :
    s.begin bus call =
      ({ s with client := some { client with calls := call :: client.calls } },
        .ok (bus.exchange client.effectiveTimeout client.calls call)) := by
  simp only [Session.begin, known, present]
  rfl

theorem Session.isReadFunction_iff {function : Int} :
    Session.isReadFunction function = true ↔ function = 3 ∨ function = 4 := by
  simp [Session.isReadFunction]

namespace Link

def ledger (link : Link) : Ledger := ⟨link.deeds, link.counters⟩

/-- The calls on record, the latest first. -/
def earlier (link : Link) : List Call := (link.recorded Event.call?).reverse

/-- The link is open on this bus, and its client waits this long and made the calls on record. -/
structure Serves (link : Link) (bus : Bus) (timeout : Number) : Prop where
  bus : link.bus = bus
  client : ∃ client, link.session.client = some client ∧ client.effectiveTimeout = timeout ∧
    client.calls = link.earlier

variable {link : Link} {bus : Bus} {timeout : Number} {r : Request}

theorem earlier_eq (link : Link) :
    link.earlier = (link.ledger.deeds.filterMap Deed.call?).reverse := by
  rw [earlier, ← deeds_calls]
  rfl

theorem record_ledger (link : Link) {event : Event} {deed : Deed} (seen : event.deed? = some deed) :
    (link.record event).ledger = link.ledger.add deed := by
  simp only [ledger, deeds, recorded_some link seen, Ledger.add]
  rfl

theorem record_ledger_none (link : Link) {event : Event} (unseen : event.deed? = none) :
    (link.record event).ledger = link.ledger := by
  simp only [ledger, deeds, recorded_none link unseen]
  rfl

theorem note_ledger (link : Link) (notice : Notice) : (link.note notice).ledger = link.ledger :=
  link.record_ledger_none rfl

theorem earlier_called (link : Link) (call : Call) (timeout : Number) :
    (link.record (.called call timeout)).earlier = call :: link.earlier := by
  have found : (Event.called call timeout).call? = some call := rfl
  rw [earlier, recorded_some link found, List.reverse_append]
  rfl

theorem Serves.record {event : Event} (serves : link.Serves bus timeout)
    (uncalled : event.call? = none) : (link.record event).Serves bus timeout := by
  obtain ⟨rfl, client, present, waits, calls⟩ := serves
  refine ⟨rfl, client, present, waits, ?_⟩
  rw [calls, earlier, earlier, recorded_none link uncalled]

theorem beginQuery_refused {f : Failure} (refused : r.refusal? = some f) :
    link.beginQuery r = (link, .error f) := by
  unfold Request.refusal? at refused
  unfold beginQuery
  split at refused
  · rename_i malformed
    rw [if_pos malformed]
    split at refused <;> cases refused <;> simp only [*]
  · rename_i sound
    rw [if_neg sound]
    split at refused
    · cases refused
    · rename_i unknown
      cases refused
      simp [unknown]

theorem beginRead_known {client : Client} {call : Call}
    (known : Session.isReadFunction call.function = true)
    (present : link.session.client = some client) :
    link.beginRead call =
      ({ link with
          session :=
            { link.session with
              client := some { client with calls := call :: client.calls } } }.record
          (.called call client.effectiveTimeout),
        .ok (link.bus.exchange client.effectiveTimeout client.calls call)) := by
  simp only [beginRead, Session.begin_known known present, present]
  rfl

theorem refusal_none (accepted : r.refusal? = none) :
    ¬ r.count ≤ 0 ∧ Session.isReadFunction r.function = true := by
  unfold Request.refusal? at accepted
  split at accepted
  · cases accepted
  · rename_i sound
    split at accepted
    · rename_i known
      exact ⟨sound, known⟩
    · cases accepted

/-- A request that is not refused counts, and becomes a read. -/
theorem beginQuery_handed (accepted : r.refusal? = none) :
    link.beginQuery r =
      Link.beginRead { link with counters := link.counters.addRequest } r.call := by
  obtain ⟨sound, known⟩ := refusal_none accepted
  unfold beginQuery
  rw [if_neg sound, if_neg (by simp [known])]
  rfl

/-- A request that is not refused is handed to the client, and counts. -/
theorem beginQuery_accepted (serves : link.Serves bus timeout) (accepted : r.refusal? = none) :
    ∃ next, link.beginQuery r = (next, .ok (bus.exchange timeout link.earlier r.call)) ∧
      next.Serves bus timeout ∧ next.ledger = link.ledger.enter r 1 0 := by
  obtain ⟨rfl, client, present, rfl, calls⟩ := serves
  have known := (refusal_none accepted).2
  let counted : Link := { link with counters := link.counters.addRequest }
  have still : counted.session.client = some client := present
  rw [beginQuery_handed accepted, beginRead_known known still, ← calls]
  refine ⟨_, rfl, ⟨rfl, _, rfl, rfl, ?_⟩, record_ledger _ rfl⟩
  rw [earlier_called, calls]
  rfl

theorem fault_ledger (link : Link) (r : Request) (notice : Notice) :
    ({ link with counters := link.counters.addReconnect }.note notice).ledger =
      link.ledger.enter r 0 1 := by
  rw [note_ledger]
  simp only [Ledger.enter, List.replicate_zero, List.append_nil]
  rfl

theorem Serves.fault (serves : link.Serves bus timeout) (notice : Notice) :
    ({ link with counters := link.counters.addReconnect }.note notice).Serves bus timeout :=
  Serves.record ⟨serves.bus, serves.client⟩ rfl

/-- The end of a query leaves no more on the link than a notice. -/
theorem settleQuery_eq (serves : link.Serves bus timeout) (exchange : Exchange) :
    ∃ next, link.settleQuery exchange = (next, exchange.settle) ∧
      next.Serves bus timeout ∧ next.ledger = link.ledger := by
  unfold settleQuery
  split
  · rename_i fault failed
    refine ⟨_, by rw [failed], ?_, ?_⟩
    · split
      · exact serves.record rfl
      · exact serves
    · split
      · exact note_ledger _ _
      · rfl
  · exact ⟨link, rfl, serves, rfl⟩

end Link

end MeterPolling
