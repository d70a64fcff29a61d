import Mathlib.Algebra.GroupWithZero.Nat
import MeterPolling.Agent
import MeterPolling.Proofs.Journal
/-!
The course of an agent's work when nothing but the bus decides: what becomes of a list of requests
that are treated one after the other. No time occurs in it, no channel and no other task.
-/
namespace MeterPolling

def Request.call (r : Request) : Call := ⟨r.function, r.address, r.count, r.device⟩

/-- Why a request is refused before it reaches a bus. -/
def Request.refusal? (r : Request) : Option Failure :=
  if r.count ≤ 0 then
    some (match r.name? with
      | some name => .configuration (.malformedRequest name)
      | none => .tooLarge)
  else if Session.isReadFunction r.function then none
  else some (.configuration (.unknownFunction r.function))

/-- How a reply ends, apart from when. -/
def Reply.answer : Reply → Answer
  | .silence => .raised noResponse
  | .answered _ answer => answer

/-- Whether an attempt is followed by another one. -/
def isFault : Except Failure α → Bool
  | .error (.transport _) => true
  | _ => false

theorem isFault_iff {reply : Except Failure α} :
    isFault reply = true ↔ ∃ fault, reply = .error (.transport fault) := by
  unfold isFault
  split <;> simp_all

inductive Verdict where
  | answered (value : Binary64)
  | silent
  | failed (failure : Failure)
deriving DecidableEq

def Request.verdict (r : Request) : Except Failure (List UInt8) → Verdict
  | .ok bytes =>
    match r.decoder.decode bytes with
    | .ok value => .answered value
    | .error f => .failed (.decoding f)
  | .error f => .failed f

theorem Request.verdict_ne_silent (r : Request) (reply : Except Failure (List UInt8)) :
    r.verdict reply ≠ .silent := by
  unfold verdict
  split
  · split <;> simp
  · simp

theorem Request.verdict_answered {r : Request} {reply : Except Failure (List UInt8)}
    {value : Binary64} (answered : r.verdict reply = .answered value) :
    ∃ bytes, reply = .ok bytes ∧ r.decoder.decode bytes = .ok value := by
  unfold verdict at answered
  split at answered
  · rename_i bytes
    split at answered
    · rename_i decoded
      cases answered
      exact ⟨bytes, rfl, decoded⟩
    · cases answered
  · cases answered

structure Case where
  request : Request
  calls : Nat
  verdict : Verdict
deriving DecidableEq

namespace Case

def asked (c : Case) : List Call := List.replicate c.calls c.request.call

/-- How many of its calls ended in a fault of the transport, where it has a control. -/
def faults (c : Case) : Nat :=
  match c.verdict with
  | .silent => c.calls
  | _ => c.calls - 1

def control? (c : Case) : Option Control :=
  match c.verdict with
  | .answered _ => some (.answered c.request.device)
  | .silent => some (.silent c.request.device)
  | .failed _ => none

def result? (c : Case) : Option (Request × Binary64) :=
  match c.verdict with
  | .answered value => some (c.request, value)
  | _ => none

/-- What others see of a case, in order: the calls, then the result, then the control. -/
def deeds (c : Case) : List Deed :=
  c.asked.map .asked ++ c.result?.toList.map (fun r => .delivered r.1 r.2)
    ++ c.control?.toList.map .reported

def allAsked (cases : List Case) : List Call := cases.flatMap Case.asked

def trace (cases : List Case) : List Deed := cases.flatMap Case.deeds

def tally (cases : List Case) : Counters :=
  ⟨(cases.map Case.calls).sum, (cases.map Case.faults).sum⟩

/-- How the agent ends after a case, if it does. -/
def ending? (c : Case) : Option Agent.Outcome :=
  match c.verdict with
  | .failed f => some (.failed f)
  | _ => none

theorem asked_reverse (c : Case) : c.asked.reverse = c.asked := List.reverse_replicate

theorem allAsked_cons_reverse (c : Case) (cases : List Case) (earlier : List Call) :
    (allAsked (c :: cases)).reverse ++ earlier =
      (allAsked cases).reverse ++ (c.asked ++ earlier) := by
  simp only [allAsked, List.flatMap_cons, List.reverse_append, asked_reverse, List.append_assoc]

theorem result_some {c : Case} {value : Binary64} (result : c.result? = some (r, value)) :
    c = ⟨r, c.calls, .answered value⟩ := by
  obtain ⟨request, calls, verdict⟩ := c
  cases verdict with
  | answered value' =>
    cases result
    rfl
  | silent => cases result
  | failed f => cases result

theorem faults_le_calls (c : Case) : c.faults ≤ c.calls := by
  unfold faults
  split <;> omega

theorem deeds_calls (c : Case) : c.deeds.filterMap Deed.call? = c.asked := by
  unfold deeds result? control? asked
  cases c.verdict <;> simp [List.filterMap_append, List.filterMap_replicate]

theorem trace_calls (cases : List Case) : (trace cases).filterMap Deed.call? = allAsked cases := by
  simp only [trace, allAsked, List.filterMap_flatMap, deeds_calls]

end Case

namespace Bus

/-- What a call gives after earlier ones, the latest first. -/
def outcome (bus : Bus) (earlier : List Call) (call : Call) : Except Failure (List UInt8) :=
  Exchange.settle ⟨call, none, (bus.reply earlier call).answer⟩

/-- What the attempt with this number, counted from zero, at a request gives when all attempts
before it were faults. -/
def attempt (bus : Bus) (earlier : List Call) (r : Request) (i : Nat) :
    Except Failure (List UInt8) :=
  match r.refusal? with
  | some f => .error f
  | none => bus.outcome (List.replicate i r.call ++ earlier) r.call

/-- The treatment of a request: it is tried until something other than a fault comes of it, and at
most `limit` times. -/
def treat (bus : Bus) (limit : Nat) (earlier : List Call) (r : Request) : Case :=
  match (List.range limit).find? fun i => !isFault (bus.attempt earlier r i) with
  | none => ⟨r, limit, .silent⟩
  | some i =>
    ⟨r, if r.refusal?.isSome then 0 else i + 1, r.verdict (bus.attempt earlier r i)⟩

/-- What becomes of requests in the order in which they are taken, and how the agent ends, if it
does: at the first failure, or at an absent request. -/
def course (bus : Bus) (limit : Nat) :
    List Call → List (Option Request) → List Case × Option Agent.Outcome
  | _, [] => ([], none)
  | _, none :: _ => ([], some .told)
  | earlier, some r :: rest =>
    let c := bus.treat limit earlier r
    match c.ending? with
    | some outcome => ([c], some outcome)
    | none => Prod.map (c :: ·) id (bus.course limit (c.asked ++ earlier) rest)

variable {bus : Bus} {limit : Nat} {earlier : List Call} {r : Request}

theorem treat_silent (faults : ∀ i < limit, isFault (bus.attempt earlier r i) = true) :
    bus.treat limit earlier r = ⟨r, limit, .silent⟩ := by
  have none : (List.range limit).find? (fun i => !isFault (bus.attempt earlier r i)) = none := by
    simpa [List.find?_range_eq_none] using faults
  simp only [treat, none]

theorem treat_decided {k : Nat} (within : k < limit)
    (faults : ∀ i < k, isFault (bus.attempt earlier r i) = true)
    (decided : isFault (bus.attempt earlier r k) = false) :
    bus.treat limit earlier r =
      ⟨r, if r.refusal?.isSome then 0 else k + 1, r.verdict (bus.attempt earlier r k)⟩ := by
  have found : (List.range limit).find? (fun i => !isFault (bus.attempt earlier r i)) = some k := by
    rw [List.find?_range_eq_some]
    exact ⟨by simp [decided], List.mem_range.mpr within, by simpa using faults⟩
  simp only [treat, found]

theorem attempts_split (bus : Bus) (limit : Nat) (earlier : List Call) (r : Request) :
    (∀ i < limit, isFault (bus.attempt earlier r i) = true) ∨
      ∃ k < limit, (∀ i < k, isFault (bus.attempt earlier r i) = true) ∧
        isFault (bus.attempt earlier r k) = false := by
  cases found : (List.range limit).find? fun i => !isFault (bus.attempt earlier r i) with
  | none => exact .inl (by simpa [List.find?_range_eq_none] using found)
  | some k =>
    obtain ⟨decided, member, faults⟩ := List.find?_range_eq_some.mp found
    exact .inr ⟨k, List.mem_range.mp member, by simpa using faults, by simpa using decided⟩

theorem treat_request (bus : Bus) (limit : Nat) (earlier : List Call) (r : Request) :
    (bus.treat limit earlier r).request = r := by
  unfold treat
  split <;> rfl

theorem attempt_refused {f : Failure} (refused : r.refusal? = some f) (i : Nat) :
    bus.attempt earlier r i = .error f := by
  simp only [attempt, refused]

theorem attempt_accepted (accepted : r.refusal? = none) (i : Nat) :
    bus.attempt earlier r i = bus.outcome (List.replicate i r.call ++ earlier) r.call := by
  simp only [attempt, accepted]

/-- A refusal is no fault of the transport. -/
theorem refusal_decides {f : Failure} (refused : r.refusal? = some f) (i : Nat) :
    isFault (bus.attempt earlier r i) = false := by
  rw [attempt_refused refused]
  unfold Request.refusal? at refused
  split at refused
  · split at refused <;> cases refused <;> rfl
  · split at refused <;> cases refused
    rfl

/-- A request some attempt at which returned registers that can be decoded, after nothing but
faults. -/
def Answers (bus : Bus) (limit : Nat) (earlier : List Call) (r : Request) (value : Binary64) :
    Prop :=
  ∃ k < limit, (∀ i < k, isFault (bus.attempt earlier r i) = true) ∧
    ∃ bytes, bus.attempt earlier r k = .ok bytes ∧ r.decoder.decode bytes = .ok value

theorem treat_silent_iff : (bus.treat limit earlier r).verdict = .silent ↔
    ∀ i < limit, isFault (bus.attempt earlier r i) = true := by
  constructor
  · intro silent
    rcases attempts_split bus limit earlier r with faults | ⟨k, within, faults, decided⟩
    · exact faults
    · rw [treat_decided within faults decided] at silent
      exact absurd silent (Request.verdict_ne_silent r _)
  · intro faults
    rw [treat_silent faults]

theorem treat_answered_iff {value : Binary64} :
    (bus.treat limit earlier r).verdict = .answered value ↔ bus.Answers limit earlier r value := by
  constructor
  · intro answered
    rcases attempts_split bus limit earlier r with faults | ⟨k, within, faults, decided⟩
    · rw [treat_silent faults] at answered
      cases answered
    · rw [treat_decided within faults decided] at answered
      exact ⟨k, within, faults, Request.verdict_answered answered⟩
  · rintro ⟨k, within, faults, bytes, outcome, decoded⟩
    have decided : isFault (bus.attempt earlier r k) = false := by
      rw [outcome]
      rfl
    rw [treat_decided within faults decided, outcome]
    simp only [Request.verdict, decoded]

theorem treat_refused {f : Failure} (refused : r.refusal? = some f) (tries : 0 < limit) :
    bus.treat limit earlier r = ⟨r, 0, .failed f⟩ := by
  rw [treat_decided tries (by simp) (refusal_decides refused 0), attempt_refused refused]
  simp [refused, Request.verdict]

theorem treat_accepted {k : Nat} (accepted : r.refusal? = none) (within : k < limit)
    (faults : ∀ i < k, isFault (bus.attempt earlier r i) = true)
    (decided : isFault (bus.attempt earlier r k) = false) :
    bus.treat limit earlier r = ⟨r, k + 1, r.verdict (bus.attempt earlier r k)⟩ := by
  rw [treat_decided within faults decided]
  simp [accepted]

theorem treat_calls_le (bus : Bus) (limit : Nat) (earlier : List Call) (r : Request) :
    (bus.treat limit earlier r).calls ≤ limit := by
  rcases attempts_split bus limit earlier r with faults | ⟨k, within, faults, decided⟩
  · exact Nat.le_of_eq (congrArg Case.calls (treat_silent faults))
  · rw [treat_decided within faults decided]
    change (if r.refusal?.isSome then 0 else k + 1) ≤ limit
    split <;> omega

theorem fault_accepted {i : Nat} (fault : isFault (bus.attempt earlier r i) = true) :
    r.refusal? = none := by
  cases refusal : r.refusal? with
  | none => rfl
  | some f =>
    rw [refusal_decides refusal] at fault
    cases fault

/-- The attempt that decides is not among the faults. -/
theorem faults_le {k n : Nat} (faults : ∀ i < k, isFault (bus.attempt earlier r i) = true)
    (decided : isFault (bus.attempt earlier r n) = false) : k ≤ n := by
  apply Nat.le_of_not_lt
  intro later
  rw [faults n later] at decided
  cases decided

/-- The faults so far are among those of the treatment. -/
theorem faults_le_faults {k : Nat} (within : k ≤ limit)
    (faults : ∀ i < k, isFault (bus.attempt earlier r i) = true) :
    k ≤ (bus.treat limit earlier r).faults := by
  rcases attempts_split bus limit earlier r with all | ⟨n, below, before, decided⟩
  · rw [treat_silent all]
    exact within
  · have reached := faults_le faults decided
    cases k with
    | zero => exact Nat.zero_le _
    | succ k =>
      have accepted := fault_accepted (faults 0 (Nat.succ_pos k))
      have unsilent := r.verdict_ne_silent (bus.attempt earlier r n)
      rw [treat_accepted accepted below before decided]
      unfold Case.faults
      split
      · contradiction
      · exact reached

/-- As long as there were only faults, the treatment is not over. -/
theorem faults_le_calls {k : Nat} (within : k ≤ limit)
    (faults : ∀ i < k, isFault (bus.attempt earlier r i) = true) :
    k ≤ (bus.treat limit earlier r).calls :=
  Nat.le_trans (faults_le_faults within faults) (Case.faults_le_calls _)

theorem made_le_calls {k : Nat} (accepted : r.refusal? = none) (within : k < limit)
    (faults : ∀ i < k, isFault (bus.attempt earlier r i) = true) :
    k + 1 ≤ (bus.treat limit earlier r).calls := by
  cases decided : isFault (bus.attempt earlier r k) with
  | true =>
    apply faults_le_calls within
    intro i below
    rcases Nat.lt_succ_iff_lt_or_eq.mp below with less | rfl
    · exact faults i less
    · exact decided
  | false =>
    have treated := treat_accepted accepted within faults decided
    exact Nat.le_of_eq (congrArg Case.calls treated).symm

theorem course_cons_ended {outcome : Agent.Outcome} {rest : List (Option Request)}
    (ended : (bus.treat limit earlier r).ending? = some outcome) :
    bus.course limit earlier (some r :: rest) = ([bus.treat limit earlier r], some outcome) := by
  simp only [course, ended]

theorem course_cons_open {rest : List (Option Request)}
    (goes_on : (bus.treat limit earlier r).ending? = none) :
    bus.course limit earlier (some r :: rest) =
      Prod.map (bus.treat limit earlier r :: ·) id
        (bus.course limit ((bus.treat limit earlier r).asked ++ earlier) rest) := by
  simp only [course, goes_on]

theorem course_head (rest : List (Option Request)) :
    (bus.course limit earlier (some r :: rest)).1.head? = some (bus.treat limit earlier r) := by
  cases ended : (bus.treat limit earlier r).ending? with
  | some outcome => rw [course_cons_ended ended]; rfl
  | none => rw [course_cons_open ended]; rfl

theorem course_cons_whole {cases : List Case} {item : Option Request}
    {rest : List (Option Request)}
    (whole : bus.course limit earlier (item :: rest) = (cases, none)) :
    ∃ r tail, item = some r ∧ (bus.treat limit earlier r).ending? = none ∧
      cases = bus.treat limit earlier r :: tail ∧
      bus.course limit ((bus.treat limit earlier r).asked ++ earlier) rest = (tail, none) := by
  cases item with
  | none => cases whole
  | some r =>
    cases ended : (bus.treat limit earlier r).ending? with
    | some outcome => simp [course_cons_ended ended] at whole
    | none =>
      rw [course_cons_open ended] at whole
      obtain ⟨first, second⟩ := Prod.mk.inj whole
      exact ⟨r, _, rfl, ended, first.symm, Prod.ext rfl second⟩

/-- What comes later is treated as if all calls so far had been made before the start. -/
theorem course_append {cases : List Case} {before : List (Option Request)}
    (whole : bus.course limit earlier before = (cases, none)) (rest : List (Option Request)) :
    bus.course limit earlier (before ++ rest) =
      Prod.map (cases ++ ·) id
        (bus.course limit ((Case.allAsked cases).reverse ++ earlier) rest) := by
  induction before generalizing earlier cases with
  | nil =>
    cases whole
    rfl
  | cons item before ih =>
    obtain ⟨r, tail, rfl, goes_on, rfl, later⟩ := course_cons_whole whole
    -- the calls of the first case join those made before the start
    rw [List.cons_append, course_cons_open goes_on, ih later, Case.allAsked_cons_reverse]
    rfl

theorem course_ended {outcome : Agent.Outcome} {before : List (Option Request)}
    (ended : (bus.course limit earlier before).2 = some outcome) (rest : List (Option Request)) :
    bus.course limit earlier (before ++ rest) = bus.course limit earlier before := by
  induction before generalizing earlier with
  | nil => cases ended
  | cons item before ih =>
    cases item with
    | none => rfl
    | some r =>
      cases stops : (bus.treat limit earlier r).ending? with
      | some outcome => rw [List.cons_append, course_cons_ended stops, course_cons_ended stops]
      | none =>
        rw [course_cons_open stops] at ended
        rw [List.cons_append, course_cons_open stops, course_cons_open stops, ih ended]

theorem course_mono {xs ys : List (Option Request)} (part : xs <+: ys) :
    (bus.course limit earlier xs).1 <+: (bus.course limit earlier ys).1 := by
  obtain ⟨rest, rfl⟩ := part
  cases ended : (bus.course limit earlier xs).2 with
  | some outcome =>
    have same := congrArg Prod.fst (course_ended ended rest)
    exact ⟨[], (List.append_nil _).trans same.symm⟩
  | none =>
    rw [course_append (Prod.ext rfl ended)]
    exact List.prefix_append _ _

/-- A course that has not ended has one case for each item taken. -/
theorem course_items {cases : List Case} {items : List (Option Request)}
    (whole : bus.course limit earlier items = (cases, none)) :
    items = cases.map fun c => some c.request := by
  induction items generalizing earlier cases with
  | nil =>
    cases whole
    rfl
  | cons item items ih =>
    obtain ⟨r, tail, rfl, _, rfl, later⟩ := course_cons_whole whole
    rw [ih later, List.map_cons, treat_request]

theorem course_goes_on {cases : List Case} {items : List (Option Request)}
    (whole : bus.course limit earlier items = (cases, none)) :
    ∀ c ∈ cases, c.ending? = none := by
  induction items generalizing earlier cases with
  | nil =>
    cases whole
    simp
  | cons item items ih =>
    obtain ⟨r, tail, rfl, goes_on, rfl, later⟩ := course_cons_whole whole
    intro c member
    rcases List.mem_cons.mp member with rfl | member
    · exact goes_on
    · exact ih later c member

/-- Each case is the treatment of its request after the calls of all cases before it. -/
theorem course_treated {before after : List Case} {c : Case} {items : List (Option Request)}
    (split : (bus.course limit earlier items).1 = before ++ c :: after) :
    c = bus.treat limit ((Case.allAsked before).reverse ++ earlier) c.request := by
  induction items generalizing earlier before with
  | nil => simp [course] at split
  | cons item items ih =>
    cases item with
    | none => simp [course] at split
    | some r =>
      cases before with
      | nil =>
        have head := congrArg List.head? split
        rw [course_head] at head
        obtain rfl := Option.some.inj head
        rw [treat_request]
        rfl
      | cons d before =>
        cases ended : (bus.treat limit earlier r).ending? with
        | some outcome =>
          rw [course_cons_ended ended] at split
          simp at split
        | none =>
          rw [course_cons_open ended] at split
          obtain ⟨rfl, rest⟩ := List.cons.inj split
          rw [Case.allAsked_cons_reverse]
          exact ih rest

theorem course_snoc {cases : List Case} {before : List (Option Request)}
    (whole : bus.course limit [] before = (cases, none)) (r : Request) :
    bus.course limit [] (before ++ [some r]) =
      (cases ++ [bus.treat limit (Case.allAsked cases).reverse r],
        (bus.treat limit (Case.allAsked cases).reverse r).ending?) := by
  rw [course_append whole, List.append_nil]
  cases ended : (bus.treat limit (Case.allAsked cases).reverse r).ending? with
  | some outcome => rw [course_cons_ended ended]; rfl
  | none => rw [course_cons_open ended]; rfl

theorem course_sentinel {cases : List Case} {before : List (Option Request)}
    (whole : bus.course limit [] before = (cases, none)) :
    bus.course limit [] (before ++ [none]) = (cases, some .told) := by
  rw [course_append whole]
  simp [course]

end Bus

end MeterPolling
