import MeterPolling.Proofs.Exchange
/-!
The probes of a scan, when nothing but the bus decides how each of them ends. A reply ends the visit
of an address, a fault of the transport is followed by the next producer, and anything else is the
end of the scan. No stage of the scanner occurs in it, and no cancellation.
-/
namespace MeterPolling

/-- One probe: a producer at an address, the calls that were made for it, and what came of it. -/
structure Trial where
  device : Int
  producer : Producer
  calls : List Call
  result : Except Failure (List UInt8)

/-- The probe of an address after earlier calls, the latest first. A producer that lacks the register
for it makes no call. -/
def Producer.trial (bus : Bus) (waits : Option Number) (earlier : List Call) (device : Int)
    (p : Producer) : Trial :=
  match p.probe device with
  | .error f => ⟨device, p, [], .error f⟩
  | .ok r => ⟨device, p, (r.fate bus waits earlier).1, (r.fate bus waits earlier).2⟩

/-- The failure that a probe raises, if any: it is neither a reply nor a fault of the transport. -/
def raised? : Except Failure α → Option Failure
  | .ok _ | .error (.transport _) => none
  | .error f => some f

namespace Trial

def asked (trials : List Trial) : List Call := trials.flatMap Trial.calls

/-- The probes at an address with the producers that are left, and what follows them. -/
def visit (bus : Bus) (waits : Option Number) (next : List Call → List Trial) (device : Int) :
    List Producer → List Call → List Trial
  | [], earlier => next earlier
  | p :: left, earlier =>
    let trial := p.trial bus waits earlier device
    let later := trial.calls.reverse ++ earlier
    trial ::
      match trial.result with
      | .ok _ => next later
      | .error (.transport _) => visit bus waits next device left later
      | .error _ => []

def sweep (bus : Bus) (waits : Option Number) (producers : List Producer) :
    List Int → List Call → List Trial
  | [], _ => []
  | device :: rest, earlier =>
    visit bus waits (sweep bus waits producers rest) device producers earlier

end Trial

def Scanner.trials (s : Scanner) (link : Link) : List Trial :=
  Trial.sweep link.bus (link.session.client.map fun _ => s.timeout) s.producers Device.all link.made

variable {bus : Bus} {waits : Option Number} {earlier : List Call} {device : Int} {p : Producer}
  {left : List Producer} {r : Request} {f : Failure} {next : List Call → List Trial}

theorem raised_some {result : Except Failure α} (raised : raised? result = some f) :
    result = .error f ∧ isFault result = false := by
  unfold raised? at raised
  split at raised
  · cases raised
  · cases raised
  · rename_i other
    cases raised
    refine ⟨rfl, ?_⟩
    cases f with
    | transport fault => exact absurd rfl (other fault)
    | _ => rfl

theorem raised_error (other : isFault (.error f : Except Failure α) = false) :
    raised? (.error f : Except Failure α) = some f := by
  cases f with
  | transport fault => cases other
  | _ => rfl

/-- A refusal is no fault of the transport. -/
theorem raised_refused {waits : Option Number} (refused : r.refusal? = some f) :
    raised? (r.fate bus waits earlier).2 = some f := by
  have decides : isFault (bus.attempt earlier r 0) = false := Bus.refusal_decides refused 0
  rw [Bus.attempt_refused refused] at decides
  unfold Request.fate
  simp only [refused]
  exact raised_error decides

theorem Producer.trial_probed (probed : p.probe device = .ok r) :
    p.trial bus waits earlier device =
      ⟨device, p, (r.fate bus waits earlier).1, (r.fate bus waits earlier).2⟩ := by
  unfold trial
  rw [probed]

theorem Producer.trial_unprobed (unprobed : p.probe device = .error f) :
    p.trial bus waits earlier device = ⟨device, p, [], .error f⟩ := by
  unfold trial
  rw [unprobed]

/-- Only a label without a register keeps a producer from building its probe. -/
theorem Producer.probe_error (unprobed : p.probe device = .error f) :
    f = .unknownLabel p.probeLabel ∧ p.registers.lookup p.probeLabel = none := by
  unfold probe request at unprobed
  split at unprobed
  · cases unprobed
  · rename_i missing
    cases unprobed
    exact ⟨rfl, missing⟩

theorem Producer.probe_fits (probed : p.probe device = .ok r) : r.Fits := by
  unfold probe request at probed
  split at probed
  · cases probed
    exact p.requestFor_fits device _ _
  · cases probed

namespace Trial

/-- A probe that raises is the last one. -/
theorem visit_raised (raised : raised? (p.trial bus waits earlier device).result = some f) :
    visit bus waits next device (p :: left) earlier = [p.trial bus waits earlier device] := by
  obtain ⟨failed, other⟩ := raised_some raised
  rw [failed] at other
  unfold visit
  simp only [failed]
  cases f with
  | transport fault => cases other
  | _ => rfl

theorem visit_replied {bytes : List UInt8}
    (replied : (p.trial bus waits earlier device).result = .ok bytes) :
    visit bus waits next device (p :: left) earlier =
      p.trial bus waits earlier device ::
        next ((p.trial bus waits earlier device).calls.reverse ++ earlier) := by
  rw [visit]
  simp only [replied]

theorem visit_fault {fault : TransportFault}
    (failed : (p.trial bus waits earlier device).result = .error (.transport fault)) :
    visit bus waits next device (p :: left) earlier =
      p.trial bus waits earlier device ::
        visit bus waits next device left
          ((p.trial bus waits earlier device).calls.reverse ++ earlier) := by
  rw [visit]
  simp only [failed]

theorem asked_append (trials more : List Trial) :
    asked (trials ++ more) = asked trials ++ asked more :=
  List.flatMap_append

end Trial

/-- The address after one of the valid ones. -/
theorem Device.all_goes_on {before after : List Int} (split : all = before ++ device :: after) :
    device < last ∧ (∃ rest, after = (device + 1) :: rest) ∨ ¬ device < last ∧ after = [] := by
  have lengths : before.length + (after.length + 1) = 247 := by
    have lengths := congrArg List.length split
    simpa [all, addresses] using lengths.symm
  have at_index (i : Nat) (within : i < 247) : (before ++ device :: after)[i]? = some (first + i) := by
    rw [← split]
    simp [all, addresses, within]
  have here : device = first + before.length := by
    simpa using at_index before.length (by omega)
  unfold first at here
  unfold last
  cases after with
  | nil =>
    rw [List.length_nil] at lengths
    exact .inr ⟨by omega, rfl⟩
  | cons x rest =>
    rw [List.length_cons] at lengths
    have there : x = first + (before.length + 1 : Nat) := by
      simpa using at_index (before.length + 1) (by omega)
    unfold first at there
    refine .inl ⟨by omega, rest, ?_⟩
    congr 1
    omega

end MeterPolling
