import MeterPolling.Bus
/-!
A bus that answers by rules. The first rule that matches a read gives the next of its replies; past
the last one it repeats that one, or starts again. A read that no rule matches gets the default.
-/
namespace MeterPolling.Bus

/-- The values a rule is for; none given means every value. -/
abbrev Filter := Option (List Int)

def Filter.accepts (f : Filter) (x : Int) : Bool :=
  match f with
  | none => true
  | some xs => xs.contains x

/-- The registers of a scripted reply: some values, or one value for each register asked. -/
inductive Values where
  | these (values : List Int)
  | filled (value : Int)

inductive ScriptedAnswer where
  | values (values : Values)
  | exception (code : Int)
  | raised (error : ClientError)

inductive ScriptedReply where
  | silence
  | answered (delay : Option Number) (answer : ScriptedAnswer)

structure Rule where
  device : Filter
  function : Filter
  address : Filter
  replies : List ScriptedReply
  cycles : Bool

structure Script where
  opening : Opening
  copiesTimeout : Bool
  rules : List Rule
  default : ScriptedReply

def Rule.matches (r : Rule) (c : Call) : Bool :=
  r.device.accepts c.device && r.function.accepts c.function && r.address.accepts c.address

/-- The reply to the read with this number among those the rule has answered. -/
def Rule.replyAt? (r : Rule) (n : Nat) : Option ScriptedReply :=
  if r.cycles then r.replies[n % r.replies.length]? else r.replies[min n (r.replies.length - 1)]?

/-- The reply as the given read gets it. -/
def ScriptedReply.toReply (call : Call) : ScriptedReply → Reply
  | .silence => .silence
  | .answered delay answer =>
    .answered delay <|
      match answer with
      | .values (.these xs) => .ofValues xs
      | .values (.filled x) => .ofValues (List.replicate call.count.toNat x)
      | .exception code => .exception code
      | .raised e => .raised e

namespace Script

/-- The place of the first rule that matches a read. -/
def ruleFor? (s : Script) (call : Call) : Option Nat := s.rules.findIdx? (·.matches call)

def reply (s : Script) (earlier : List Call) (call : Call) : Reply :=
  let chosen :=
    match s.ruleFor? call with
    | none => s.default
    | some i =>
      let answered := earlier.countP fun c => s.ruleFor? c == some i
      ((s.rules[i]?.bind (·.replyAt? answered)).getD s.default)
  chosen.toReply call

/-- The bus that answers by the script. -/
def bus (s : Script) : Bus where
  opening := s.opening
  copiesTimeout := s.copiesTimeout
  reply := s.reply

end Script

end MeterPolling.Bus
