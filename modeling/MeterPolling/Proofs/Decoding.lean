import Mathlib.Tactic.Ring
import MeterPolling.Proofs.Agent.Course
import MeterPolling.Scheduler
/-!
A request fits when it asks for as many registers as its decoder takes. All requests of a producer
fit, and what a device answers to such a request is decoded without a fault; so only a call itself
can come to a bad end.
-/
namespace MeterPolling

theorem registerBytes_length (words : List UInt16) :
    (words.flatMap registerBytes).length = 2 * words.length := by
  induction words with
  | nil => rfl
  | cons word words ih =>
    rw [List.flatMap_cons, List.length_append, ih, List.length_cons]
    change 2 + _ = _
    omega

theorem bigEndian_registerBytes (word : UInt16) : bigEndian (registerBytes word) = word.toNat := by
  have below : word.toNat < 2 ^ 16 := word.toNat_lt
  have leading : (word >>> 8).toUInt8.toNat = word.toNat / 256 := by
    rw [UInt16.toNat_toUInt8, UInt16.toNat_shiftRight]
    change word.toNat >>> 8 % 2 ^ 8 = word.toNat / 256
    rw [Nat.shiftRight_eq_div_pow]
    omega
  have trailing : word.toUInt8.toNat = word.toNat % 256 := UInt16.toNat_toUInt8 word
  change (0 * 256 + (word >>> 8).toUInt8.toNat) * 256 + word.toUInt8.toNat = word.toNat
  rw [leading, trailing]
  omega

/-- The bytes that come first count for as many places as others follow. -/
theorem bigEndian_append (bytes more : List UInt8) :
    bigEndian (bytes ++ more) = bigEndian bytes * 256 ^ more.length + bigEndian more := by
  have shifted (n : Nat) : more.foldl (fun n b => n * 256 + b.toNat) n =
      n * 256 ^ more.length + bigEndian more := by
    induction more generalizing n with
    | nil =>
      rw [List.foldl_nil, List.length_nil, Nat.pow_zero, Nat.mul_one]
      rfl
    | cons byte more ih =>
      rw [bigEndian, List.foldl_cons, List.foldl_cons, ih, ih, List.length_cons, Nat.pow_succ]
      ring
  rw [bigEndian, List.foldl_append]
  exact shifted _

/-- Two registers hold one number, its leading half in the first. -/
theorem bigEndian_pair (hi lo : UInt16) :
    bigEndian ([hi, lo].flatMap registerBytes) = hi.toNat * 65536 + lo.toNat := by
  have bytes : [hi, lo].flatMap registerBytes = registerBytes hi ++ registerBytes lo := rfl
  have places : 256 ^ (registerBytes lo).length = 65536 := by
    rw [show (registerBytes lo).length = 2 from rfl]
    decide
  rw [bytes, bigEndian_append, bigEndian_registerBytes, bigEndian_registerBytes, places]

/-- Only as many registers as were asked for are an answer. -/
theorem Exchange.settle_ok_iff {x : Exchange} {bytes : List UInt8} :
    x.settle = .ok bytes ↔ ∃ words, x.answer = .registers words ∧
      (words.length : Int) = x.call.count ∧ words.flatMap registerBytes = bytes := by
  obtain ⟨call, wait, answer⟩ := x
  unfold settle
  cases answer with
  | registers words =>
    simp only
    split
    · rename_i count
      simp [count]
    · rename_i miscounted
      simp [miscounted]
  | raised e => simp
  | exception code => simp
  | misfit count value =>
    simp only
    split <;> simp

/-- A read that is settled gives two bytes for each register that was asked for. -/
theorem Exchange.settle_length {x : Exchange} {bytes : List UInt8} (settled : x.settle = .ok bytes) :
    (bytes.length : Int) = 2 * x.call.count := by
  obtain ⟨words, _, count, rfl⟩ := settle_ok_iff.mp settled
  rw [registerBytes_length, ← count]
  omega

/-- A decoder decodes all bytes that fill its registers. -/
theorem Decoder.decode_fits (d : Decoder) {bytes : List UInt8}
    (fits : bytes.length = 2 * d.registerCount) : ∃ value, d.decode bytes = .ok value := by
  obtain ⟨encoding, scalar, nonzero⟩ := d
  have size : bytes.length = 2 * encoding.registerCount := fits
  unfold decode Encoding.read
  simp only [size, ne_eq, not_true_eq_false, if_false, nonzero, Bool.false_eq_true]
  cases encoding <;> exact ⟨_, rfl⟩

/-- A request asks for as many registers as its decoder takes. -/
def Request.Fits (r : Request) : Prop := r.count = r.decoder.registerCount

theorem Producer.requestFor_fits (p : Producer) (device : Int) (label : String)
    (register : Register) : (p.requestFor device label register).Fits := rfl

theorem Scheduler.round_fits {devices : List (Int × Producer)} {r : Request}
    (member : r ∈ round devices) : r.Fits := by
  obtain ⟨device, _, member⟩ := List.mem_flatMap.mp member
  obtain ⟨entry, _, rfl⟩ := List.mem_map.mp member
  exact device.2.requestFor_fits device.1 entry.1 entry.2

/-- An answer to a request that fits is a value. -/
theorem Request.Fits.answered {bus : Bus} {earlier : List Call} {r : Request} {bytes : List UInt8}
    (fits : r.Fits) (answer : bus.outcome earlier r.call = .ok bytes) :
    ∃ value, r.verdict (.ok bytes) = .answered value := by
  have length := Exchange.settle_length answer
  change (bytes.length : Int) = 2 * r.count at length
  rw [fits] at length
  have filled : bytes.length = 2 * r.decoder.registerCount := by omega
  obtain ⟨value, decoded⟩ := r.decoder.decode_fits filled
  refine ⟨value, ?_⟩
  simp only [verdict, decoded]

namespace Bus

/-- Whatever was asked before, each call for a request of a round ends, and not fatally: it gives
registers, or a fault of the transport. -/
def Spares (bus : Bus) (devices : List (Int × Producer)) : Prop :=
  ∀ r ∈ Scheduler.round devices, ∀ earlier,
    isFault (bus.attempt earlier r 0) = true ∨ ∃ bytes, bus.attempt earlier r 0 = .ok bytes

variable {bus : Bus} {devices : List (Int × Producer)} {r : Request}

theorem attempt_shift (bus : Bus) (earlier : List Call) (r : Request) (i : Nat) :
    bus.attempt earlier r i = bus.attempt (List.replicate i r.call ++ earlier) r 0 := by
  unfold attempt
  cases r.refusal? <;> rfl

theorem attempt_ok {earlier : List Call} {i : Nat} {bytes : List UInt8}
    (answer : bus.attempt earlier r i = .ok bytes) :
    bus.outcome (List.replicate i r.call ++ earlier) r.call = .ok bytes := by
  unfold attempt at answer
  split at answer
  · cases answer
  · exact answer

/-- On such a bus no request of a round is the end of the agent. -/
theorem Spares.treat (spares : bus.Spares devices) (member : r ∈ Scheduler.round devices)
    (limit : Nat) (earlier : List Call) (f : Failure) :
    (bus.treat limit earlier r).verdict ≠ .failed f := by
  rcases bus.attempts_split limit earlier r with faults | ⟨k, within, faults, decided⟩
  · rw [treat_silent faults]
    simp
  · rw [treat_decided within faults decided]
    rcases spares r member (List.replicate k r.call ++ earlier) with fault | ⟨bytes, answer⟩
    · rw [← attempt_shift, decided] at fault
      cases fault
    · rw [← attempt_shift] at answer
      obtain ⟨value, answered⟩ := (Scheduler.round_fits member).answered (attempt_ok answer)
      rw [answer, answered]
      simp

end Bus

end MeterPolling
