import MeterPolling.Proofs.Agent.Outcome
import MeterPolling.Proofs.Decoder.Single
import MeterPolling.Proofs.Decoding
/-!
Binary32 registers on their way to a reading. The two registers of a reply make up one pattern, the
leading half first, and what is delivered for the request is the number that the pattern stands for.
Nothing else is ever delivered for such a request.
-/
namespace MeterPolling

/-- What is delivered for a request for a binary32 number: the first attempt that is no fault gives
two registers, and the value is the number for their pattern. The calls before this request are given,
the latest first. -/
structure Bus.GivesSingle (bus : Bus) (limit : Nat) (earlier : List Call) (r : Request)
    (value : Binary64) : Prop where
  accepted : r.refusal? = none
  asked : r.count = 2
  registers : ∃ k < limit, (∀ i < k, isFault (bus.attempt earlier r i) = true) ∧
    ∃ hi lo, (bus.reply (List.replicate k r.call ++ earlier) r.call).answer = .registers [hi, lo] ∧
      Binary64.Widened (hi.toNat * 65536 + lo.toNat) value

theorem pair_lt (hi lo : UInt16) : hi.toNat * 65536 + lo.toNat < 2 ^ 32 := by
  have := hi.toNat_lt
  have := lo.toNat_lt
  omega

theorem Case.result_answered_iff {c : Case} {value : Binary64} :
    c.result? = some (c.request, value) ↔ c.verdict = .answered value := by
  unfold Case.result?
  cases c.verdict <;> simp

namespace Decoder

variable {d : Decoder} {bytes : List UInt8} {x : Binary64}

theorem decode_single_iff (single : d.encoding = .raw32) :
    d.decode bytes = .ok x ↔ bytes.length = 4 ∧ Binary64.ofSingle (bigEndian bytes) = x := by
  obtain ⟨encoding, scalar, nonzero⟩ := d
  obtain rfl : encoding = .raw32 := single
  have size : 2 * Encoding.raw32.registerCount = 4 := rfl
  unfold decode Encoding.read
  simp only [size]
  split
  · rename_i other
    simp [other]
  · rename_i fits
    have fits : bytes.length = 4 := by omega
    simp [fits]

end Decoder

namespace Bus

variable {bus : Bus} {limit : Nat} {earlier : List Call} {r : Request} {bytes : List UInt8}
  {x : Binary64}

/-- Four bytes come of two registers, as many as were asked for. -/
theorem outcome_four_iff : bus.outcome earlier r.call = .ok bytes ∧ bytes.length = 4 ↔
    r.count = 2 ∧ ∃ hi lo, (bus.reply earlier r.call).answer = .registers [hi, lo] ∧
      [hi, lo].flatMap registerBytes = bytes := by
  rw [outcome, Exchange.settle_ok_iff]
  constructor
  · rintro ⟨⟨words, answer, count, rfl⟩, four⟩
    rw [registerBytes_length] at four
    have two : words.length = 2 := by omega
    obtain ⟨hi, lo, rfl⟩ := List.length_eq_two.mp two
    exact ⟨count.symm, hi, lo, answer, rfl⟩
  · rintro ⟨two, hi, lo, answer, rfl⟩
    exact ⟨⟨[hi, lo], answer, two.symm, rfl⟩, rfl⟩

/-- A binary32 number is answered just as its registers say. -/
theorem answers_single_iff (single : r.decoder.encoding = .raw32) :
    bus.Answers limit earlier r x ↔ bus.GivesSingle limit earlier r x := by
  constructor
  · rintro ⟨k, within, faults, bytes, attempt, decoded⟩
    have accepted : r.refusal? = none := by
      cases refusal : r.refusal? with
      | none => rfl
      | some f =>
        rw [attempt_refused refusal] at attempt
        cases attempt
    rw [attempt_accepted accepted] at attempt
    obtain ⟨four, value⟩ := (Decoder.decode_single_iff single).mp decoded
    obtain ⟨two, hi, lo, answer, rfl⟩ := outcome_four_iff.mp ⟨attempt, four⟩
    rw [bigEndian_pair] at value
    have widened := (Binary64.widened_iff (pair_lt hi lo)).mpr value.symm
    exact ⟨accepted, two, k, within, faults, hi, lo, answer, widened⟩
  · rintro ⟨accepted, two, k, within, faults, hi, lo, answer, widened⟩
    obtain ⟨outcome, four⟩ := outcome_four_iff.mpr ⟨two, hi, lo, answer, rfl⟩
    refine ⟨k, within, faults, _, (attempt_accepted accepted k).trans outcome, ?_⟩
    rw [Decoder.decode_single_iff single, bigEndian_pair]
    exact ⟨four, ((Binary64.widened_iff (pair_lt hi lo)).mp widened).symm⟩

end Bus

namespace Agent

/-- What is delivered of the requests taken so far: of each that is done with, and perhaps of the
latest one. -/
structure Singles (bus : Bus) (limit : Nat) (requests : List Request) (link : Link)
    (cases : List Case) (closed : Nat) : Prop where
  each : cases.map Case.request = requests
  latest : closed = requests.length ∨ closed + 1 = requests.length
  delivered : ∃ n, (n = closed ∨ n = closed + 1) ∧
    (link.recorded Event.reading?).map Reading.result = (cases.take n).filterMap Case.result?
  /-- A case for a binary32 number has a result just where the registers give one. -/
  exact : ∀ before c after, cases = before ++ c :: after → c.request.decoder.encoding = .raw32 →
    ∀ value, c.result? = some (c.request, value) ↔
      bus.GivesSingle limit (Case.allAsked before).reverse c.request value

variable {settings : Settings} {a : Agent} {line₀ line : Line} {puts : List (Option Request)}

/-- At every moment of every run, the value that was delivered for a binary32 number is the one that
its registers stand for. -/
theorem Run.singles_are_exact (unused : line₀.link.Unused)
    (run : Run (make settings) line₀ puts a line) :
    ∃ taken cases closed, line₀.requests.items ++ puts = taken ++ line.requests.items ∧
      Singles line₀.link.bus settings.attempts taken.reduceOption line.link cases closed := by
  obtain ⟨_, _, taken, split, stands⟩ := run.account unused
  obtain ⟨closed, current, part, progress⟩ := stands.progress
  have outcomes := progress.outcomes rfl
  refine ⟨taken, closed ++ current, closed.length, split, ?_⟩
  constructor
  case each => exact outcomes.each
  case latest => exact outcomes.latest
  case delivered => exact outcomes.results
  case exact =>
    intro before c after parts single value
    rw [Case.result_answered_iff, outcomes.answered before c after parts value]
    exact Bus.answers_single_iff single

/-- The hesitant meter answers its second call with the registers of 230.5. -/
theorem Run.hesitant_single_is_exact :
    let line := hesitantLine none 0
    let last := (make .default).advance 10 line
    line.link.Unused ∧ Run (make .default) line [] last.1 last.2 ∧
      (last.2.link.recorded Event.reading?).map Reading.value = [.ofQuotient false 461 2] ∧
      ∃ taken cases closed, line.requests.items ++ [] = taken ++ last.2.requests.items ∧
        Singles line.link.bus Settings.default.attempts taken.reduceOption last.2.link cases
          closed := by
  intro line last
  have unused := hesitantLine_unused none 0
  have run : Run (make .default) line [] last.1 last.2 := Run.start.advance 10
  exact ⟨unused, run, by decide +kernel, Run.singles_are_exact unused run⟩

end Agent

end MeterPolling
