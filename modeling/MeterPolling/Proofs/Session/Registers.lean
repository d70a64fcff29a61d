import MeterPolling.Proofs.Agent.Bench
import MeterPolling.Proofs.Exchange
import MeterPolling.Proofs.Session.Timeout
/-!
What comes of reading registers over an open session. There is one call of the client, and what the
client comes back with decides alone: bytes for as many registers as were asked for, one of the two
kinds of fault of the transport, or a failure that is none of the session's and passes through. The
bytes hold the registers as the decoders read them, so that they tell one reply from another.
-/
namespace MeterPolling

/-! ## Bytes -/

/-- Two bytes hold each register, and a decoder reads from them the number that is in it. -/
structure Packs (words : List UInt16) (bytes : List UInt8) : Prop where
  length : bytes.length = 2 * words.length
  word : ∀ i (h : i < words.length), bigEndian ((bytes.drop (2 * i)).take 2) = words[i].toNat

variable {words other : List UInt16} {bytes : List UInt8}

theorem packs_registerBytes (words : List UInt16) : Packs words (words.flatMap registerBytes) := by
  refine ⟨registerBytes_length words, ?_⟩
  induction words with
  | nil =>
    intro i h
    cases h
  | cons word words ih =>
    intro i h
    cases i with
    | zero => exact bigEndian_registerBytes word
    | succ i =>
      -- the two bytes of the first register stand before all others
      have shift : 2 * (i + 1) = 2 * i + 2 := by omega
      rw [shift]
      exact ih i (Nat.lt_of_succ_lt_succ h)

/-- The bytes tell which registers they hold. -/
theorem Packs.unique (packs : Packs words bytes) (also : Packs other bytes) : other = words := by
  have count : other.length = words.length := by
    have first := packs.length
    have second := also.length
    omega
  apply List.ext_getElem count
  intro i inOther inWords
  apply UInt16.toNat_inj.mp
  rw [← also.word i inOther, ← packs.word i inWords]

/-! ## Replies -/

section Replies

/-- A reply to a call that is a fault of the transport, with the cause that is given for it. -/
inductive Answer.Faulty (call : Call) : Answer → TransportCause → Prop where
  | raised (e : ClientError) : e.isProtocol = true → Faulty call (.raised e) (.client e)
  | exception (code : Int) : Faulty call (.exception code) (.exceptionCode code)
  | miscounted (words : List UInt16) : (words.length : Int) ≠ call.count →
      Faulty call (.registers words) (.registerCount call.count words.length)

/-- How a read ends, by what the client came back with. Without an answer the client had to wait past
the end of the clock, and failed at that. -/
inductive Call.Ends (call : Call) : Option Answer → Except Failure (List UInt8) → Prop where
  | read (words : List UInt16) : (words.length : Int) = call.count →
      Ends call (some (.registers words)) (.ok (words.flatMap registerBytes))
  | fault (answer : Answer) (cause : TransportCause) : answer.Faulty call cause →
      Ends call (some answer) (.error (.transport ⟨call.device, call.function, cause⟩))
  | foreign (e : ClientError) : e.isProtocol = false →
      Ends call (some (.raised e)) (.error (.client e))
  | overlong : Ends call none (.error .tooLarge)

/-- A reply with a wrong number of registers, one that tells of an exception, or an error of the
protocol that is not the lack of a reply. -/
inductive Answer.Broken (call : Call) : Answer → Prop where
  | raised (e : ClientError) : e.kind = .connection ∨ e.kind = .protocol → Broken call (.raised e)
  | exception (code : Int) : Broken call (.exception code)
  | miscounted (words : List UInt16) : (words.length : Int) ≠ call.count →
      Broken call (.registers words)

/-- What can be told from the end of a read of what the client came back with, and the other way
round. -/
structure Call.Classified (call : Call) (back : Option Answer)
    (result : Except Failure (List UInt8)) : Prop where
  read : (∃ bytes, result = .ok bytes) ↔
    ∃ words, back = some (.registers words) ∧ (words.length : Int) = call.count
  packed : ∀ bytes, result = .ok bytes → (bytes.length : Int) = 2 * call.count ∧
    ∃ words, back = some (.registers words) ∧ Packs words bytes ∧
      ∀ other, Packs other bytes → other = words
  timeout : (∃ fault, result = .error (.transport fault) ∧ fault.isTimeout = true) ↔
    ∃ e, back = some (.raised e) ∧ e.kind = .inputOutput
  linkFault : (∃ fault, result = .error (.transport fault) ∧ fault.isTimeout = false) ↔
    ∃ answer, back = some answer ∧ answer.Broken call
  addressed : ∀ fault, result = .error (.transport fault) →
    fault.device = call.device ∧ fault.function = call.function
  foreign : ∀ e, result = .error (.client e) ↔ back = some (.raised e) ∧ e.isProtocol = false
  overlong : result = .error .tooLarge ↔ back = none

variable {call : Call} {answer : Answer} {cause : TransportCause} {back : Option Answer}
  {result : Except Failure (List UInt8)}

/-- The three kinds of errors that belong to the protocol of the line. -/
theorem ClientError.isProtocol_iff {e : ClientError} : e.isProtocol = true ↔
    e.kind = .inputOutput ∨ e.kind = .connection ∨ e.kind = .protocol := by
  unfold isProtocol
  cases e.kind <;> simp

/-- A fault of the transport tells whether the client had no reply. -/
theorem Answer.Faulty.timeout_iff (faulty : answer.Faulty call cause) {device function : Int} :
    TransportFault.isTimeout ⟨device, function, cause⟩ = true ↔
      ∃ e, answer = .raised e ∧ e.kind = .inputOutput := by
  cases faulty with
  | raised e own => simp [TransportFault.isTimeout]
  | exception code => simp [TransportFault.isTimeout]
  | miscounted words other => simp [TransportFault.isTimeout]

theorem Answer.Faulty.linkFault_iff (faulty : answer.Faulty call cause) {device function : Int} :
    TransportFault.isTimeout ⟨device, function, cause⟩ = false ↔ answer.Broken call := by
  cases faulty with
  | raised e own =>
    have kinds := ClientError.isProtocol_iff.mp own
    have other : TransportFault.isTimeout ⟨device, function, .client e⟩ = false ↔
        e.kind ≠ .inputOutput := beq_eq_false_iff_ne
    rw [other]
    constructor
    · exact fun unlike => .raised e (kinds.resolve_left unlike)
    · rintro (⟨_, connection | protocol⟩)
      · simp [connection]
      · simp [protocol]
  | exception code => exact iff_of_true rfl (.exception code)
  | miscounted words other => exact iff_of_true rfl (.miscounted words other)

/-- Everything that is told of a read follows from the way in which it ends. -/
theorem Call.Ends.classified (ends : call.Ends back result) : call.Classified back result := by
  cases ends with
  | read words count =>
    constructor
    case read => exact iff_of_true ⟨_, rfl⟩ ⟨words, rfl, count⟩
    case packed =>
      rintro bytes ⟨⟩
      have packs := packs_registerBytes words
      refine ⟨?_, words, rfl, packs, fun other also => packs.unique also⟩
      rw [packs.length, ← count]
      omega
    case linkFault =>
      refine iff_of_false (by simp) ?_
      rintro ⟨_, ⟨⟩, miscounted⟩
      cases miscounted with
      | miscounted _ other => exact other count
    all_goals simp
  | fault answer cause faulty =>
    constructor
    case read =>
      refine iff_of_false (by simp) ?_
      rintro ⟨words, ⟨⟩, count⟩
      cases faulty with
      | miscounted _ other => exact other count
    case timeout => simpa using faulty.timeout_iff
    case linkFault => simpa using faulty.linkFault_iff
    case foreign =>
      intro e
      refine iff_of_false (by simp) ?_
      rintro ⟨⟨⟩, other⟩
      cases faulty with
      | raised _ own =>
        rw [own] at other
        cases other
    case addressed =>
      rintro fault ⟨⟩
      exact ⟨rfl, rfl⟩
    all_goals simp
  | foreign e other =>
    have kinds : ¬ (e.kind = .inputOutput ∨ e.kind = .connection ∨ e.kind = .protocol) := by
      rw [← ClientError.isProtocol_iff, other]
      exact Bool.false_ne_true
    constructor
    case timeout =>
      refine iff_of_false (by simp) ?_
      rintro ⟨_, ⟨⟩, silent⟩
      exact kinds (.inl silent)
    case linkFault =>
      refine iff_of_false (by simp) ?_
      rintro ⟨_, ⟨⟩, broken⟩
      cases broken with
      | raised _ kind => exact kinds (.inr kind)
    case foreign =>
      intro e'
      constructor
      · rintro ⟨⟩
        exact ⟨rfl, other⟩
      · rintro ⟨⟨⟩, _⟩
        rfl
    all_goals simp
  | overlong => constructor <;> simp

end Replies

/-! ## Reads -/

namespace Link

variable {link : Link} {client : Client} {call : Call} {r : Request}

/-- What the client comes back with when it is asked next. -/
def back (link : Link) (client : Client) (call : Call) : Option Answer :=
  (link.bus.exchange client.effectiveTimeout client.calls call).pause?.map fun _ =>
    (link.bus.reply client.calls call).answer

structure Reads (link : Link) (client : Client) (call : Call) : Prop where
  /-- Function 3 is the one for holding registers, and 4 that for input registers. -/
  once : call.function = 3 ∨ call.function = 4 →
    Gains client.effectiveTimeout link (link.read call).1 [call]
  classified : call.function = 3 ∨ call.function = 4 →
    call.Classified (link.back client call) (link.read call).2
  unknown : call.function ≠ 3 → call.function ≠ 4 →
    link.read call = (link, .error (.configuration (.unknownFunction call.function)))
  /-- A query for the call gives the same, and makes it once as well. -/
  query : ∀ r : Request, r.call = call → 0 < r.count →
    (link.query r).2 = (link.read call).2 ∧
      (call.function = 3 ∨ call.function = 4 →
        Gains client.effectiveTimeout link (link.query r).1 [call])
  /-- A query for no register is refused instead, without a read. -/
  uncounted : ∀ r : Request, r.call = call → r.count ≤ 0 →
    ∃ f, r.refusal? = some f ∧ link.query r = (link, .error f)

end Link

end MeterPolling
