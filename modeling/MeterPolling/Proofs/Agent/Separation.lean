import MeterPolling.Proofs.Agent.Progress
/-!
Devices that know nothing of each other. Where each device answers as its own calls so far have it,
the course of some devices' requests alone is the part of the whole course that concerns them: with
the others go their calls, their results and their controls, and nothing else.
-/
namespace MeterPolling

/-- The reply to a call depends on no earlier call for another device. -/
def Bus.Separate (bus : Bus) : Prop :=
  ∀ earlier call, bus.reply earlier call =
    bus.reply (earlier.filter fun e => e.device == call.device) call

def Deed.concerns (kept : Int → Bool) : Deed → Bool
  | .asked call => kept call.device
  | .delivered request _ => kept request.device
  | .reported control => kept control.device

def Case.concerns (kept : Int → Bool) (c : Case) : Bool := kept c.request.device

def stays (kept : Int → Bool) : Option Request → Bool
  | none => true
  | some r => kept r.device

variable {bus : Bus} {kept : Int → Bool} {earlier : List Call} {limit : Nat} {r : Request}
  {cases : List Case} {items : List (Option Request)} {timeout : Number}

namespace Bus

abbrev own (kept : Int → Bool) (calls : List Call) : List Call := calls.filter (kept ·.device)

theorem Separate.reply (separate : bus.Separate) {call : Call} (keeps : kept call.device = true) :
    bus.reply (own kept earlier) call = bus.reply earlier call := by
  have same : (own kept earlier).filter (fun e => e.device == call.device) =
      earlier.filter fun e => e.device == call.device := by
    rw [own, List.filter_filter]
    refine List.filter_congr fun e _ => ?_
    cases equal : e.device == call.device with
    | false => rw [Bool.false_and]
    | true => rw [eq_of_beq equal, keeps, Bool.and_self]
  rw [separate, same, ← separate]

theorem Separate.exchange (separate : bus.Separate) {call : Call}
    (keeps : kept call.device = true) (timeout : Number) :
    bus.exchange timeout (own kept earlier) call = bus.exchange timeout earlier call := by
  unfold Bus.exchange
  rw [separate.reply keeps]

theorem own_replicate (keeps : kept r.device = true) (n : Nat) (earlier : List Call) :
    own kept (List.replicate n r.call ++ earlier) = List.replicate n r.call ++ own kept earlier := by
  rw [own, List.filter_append, List.filter_replicate_of_pos]
  exact keeps

theorem Separate.attempt (separate : bus.Separate) (keeps : kept r.device = true) (i : Nat) :
    bus.attempt (own kept earlier) r i = bus.attempt earlier r i := by
  have keeps_call : kept r.call.device = true := keeps
  unfold Bus.attempt outcome
  rw [← own_replicate keeps, separate.reply keeps_call]

theorem Separate.treat (separate : bus.Separate) (keeps : kept r.device = true) :
    bus.treat limit (own kept earlier) r = bus.treat limit earlier r := by
  simp only [Bus.treat, separate.attempt keeps]

theorem own_asked (keeps : kept r.device = true) :
    own kept ((bus.treat limit earlier r).asked ++ earlier) =
      (bus.treat limit earlier r).asked ++ own kept earlier := by
  rw [Case.asked, treat_request, own_replicate keeps]

theorem own_asked_other (other : kept r.device = false) :
    own kept ((bus.treat limit earlier r).asked ++ earlier) = own kept earlier := by
  have none : (bus.treat limit earlier r).asked.filter (kept ·.device) = [] := by
    rw [Case.asked, treat_request, List.filter_replicate_of_neg]
    simpa [Request.call] using other
  rw [own, List.filter_append, none, List.nil_append]

theorem course_cons_told
    (whole : bus.course limit earlier (some r :: items) = (cases, some .told)) :
    ∃ tail, (bus.treat limit earlier r).ending? = none ∧ cases = bus.treat limit earlier r :: tail ∧
      bus.course limit ((bus.treat limit earlier r).asked ++ earlier) items =
        (tail, some .told) := by
  cases ended : (bus.treat limit earlier r).ending? with
  | some outcome =>
    -- a case ends the agent by a failure only
    rw [course_cons_ended ended] at whole
    obtain rfl := Option.some.inj (congrArg Prod.snd whole)
    unfold Case.ending? at ended
    split at ended <;> cases ended
  | none =>
    rw [course_cons_open ended] at whole
    obtain ⟨first, second⟩ := Prod.mk.inj whole
    exact ⟨_, rfl, first.symm, Prod.ext rfl second⟩

/-- A course that comes to the order to stop does so without the requests of other devices, by the
same cases of those that are left. -/
theorem Separate.course (separate : bus.Separate)
    (whole : bus.course limit earlier items = (cases, some .told)) :
    bus.course limit (own kept earlier) (items.filter (stays kept)) =
      (cases.filter (Case.concerns kept), some .told) := by
  induction items generalizing earlier cases with
  | nil => cases whole
  | cons item items ih =>
    cases item with
    | none =>
      cases whole
      rfl
    | some r =>
      obtain ⟨tail, goes_on, rfl, later⟩ := course_cons_told whole
      have rest := ih later
      have concerns : Case.concerns kept (bus.treat limit earlier r) = kept r.device := by
        rw [Case.concerns, treat_request]
      have stay : stays kept (some r) = kept r.device := rfl
      cases keeps : kept r.device with
      | true =>
        rw [← separate.treat keeps] at goes_on
        rw [own_asked keeps] at rest
        rw [List.filter_cons, if_pos (stay.trans keeps), course_cons_open goes_on,
          separate.treat keeps, rest, List.filter_cons, if_pos (concerns.trans keeps)]
        rfl
      | false =>
        rw [own_asked_other keeps] at rest
        rw [List.filter_cons, if_neg (by simp [stay, keeps]), rest, List.filter_cons,
          if_neg (by simp [concerns, keeps])]

end Bus

namespace Case

/-- All deeds of a case concern its device. -/
theorem deeds_concern (kept : Int → Bool) (c : Case) :
    ∀ deed ∈ c.deeds, deed.concerns kept = c.concerns kept := by
  obtain ⟨r, calls, verdict⟩ := c
  intro deed member
  simp only [deeds, asked, List.mem_append, List.mem_map, Option.mem_toList] at member
  rcases member with (⟨call, made, rfl⟩ | ⟨result, found, rfl⟩) | ⟨control, found, rfl⟩
  · obtain rfl := List.eq_of_mem_replicate made
    rfl
  · cases verdict <;> cases found
    rfl
  · cases verdict <;> cases found <;> rfl

theorem trace_filter (kept : Int → Bool) (cases : List Case) :
    trace (cases.filter (concerns kept)) = (trace cases).filter (Deed.concerns kept) := by
  induction cases with
  | nil => rfl
  | cons c cases ih =>
    have own := c.deeds_concern kept
    have whole : trace (c :: cases) = c.deeds ++ trace cases := rfl
    rw [whole, List.filter_append]
    cases keeps : c.concerns kept with
    | true =>
      have all : c.deeds.filter (Deed.concerns kept) = c.deeds :=
        List.filter_eq_self.mpr fun deed member => (own deed member).trans keeps
      rw [List.filter_cons_of_pos keeps, all, ← ih]
      rfl
    | false =>
      have none : c.deeds.filter (Deed.concerns kept) = [] :=
        List.filter_eq_nil_iff.mpr fun deed member => by simp [own deed member, keeps]
      rw [List.filter_cons_of_neg (by simp [keeps]), none, ih, List.nil_append]

end Case

/-! ## What is asked, delivered and reported -/

theorem concerns_filterMap {f : Deed → Option α} {keep : α → Bool}
    (same : ∀ deed x, f deed = some x → keep x = deed.concerns kept) (deeds : List Deed) :
    (deeds.filter (Deed.concerns kept)).filterMap f = (deeds.filterMap f).filter keep := by
  rw [List.filterMap_filter, List.filter_filterMap]
  refine List.filterMap_congr fun deed _ => ?_
  cases found : f deed with
  | none => simp
  | some x => simp [Option.filter, same deed x found]

theorem concerns_calls (kept : Int → Bool) (deeds : List Deed) :
    (deeds.filter (Deed.concerns kept)).filterMap Deed.call? =
      Bus.own kept (deeds.filterMap Deed.call?) := by
  refine concerns_filterMap (fun deed call found => ?_) deeds
  cases deed <;> cases found
  rfl

theorem concerns_results (kept : Int → Bool) (deeds : List Deed) :
    (deeds.filter (Deed.concerns kept)).filterMap Deed.result? =
      (deeds.filterMap Deed.result?).filter fun r => kept r.1.device := by
  refine concerns_filterMap (fun deed result found => ?_) deeds
  cases deed <;> cases found
  rfl

theorem concerns_controls (kept : Int → Bool) (deeds : List Deed) :
    (deeds.filter (Deed.concerns kept)).filterMap Deed.control? =
      (deeds.filterMap Deed.control?).filter fun c => kept c.device := by
  refine concerns_filterMap (fun deed control found => ?_) deeds
  cases deed <;> cases found
  rfl

end MeterPolling
