import MeterPolling.Fault
/-!
Producers: what is known of one family of meters, and the requests that read or detect a meter of
that family. The registers form a table by label, in the order in which the labels were first given.
-/
namespace MeterPolling

/-- Where the value of a label is found and how it is decoded. -/
structure Register where
  address : Int
  decoder : Decoder
deriving DecidableEq

/-- Registers by label. Each label stands once. -/
abbrev RegisterTable := List (String × Register)

namespace RegisterTable

/-- Sets the register of a label. A label that is there keeps its place. -/
def insert (table : RegisterTable) (label : String) (register : Register) : RegisterTable :=
  match table with
  | [] => [(label, register)]
  | (l, r) :: rest =>
    if l = label then (l, register) :: rest else (l, r) :: insert rest label register

/-- The table of a list of entries, of which a later one replaces an earlier one of its label. -/
def ofList (entries : List (String × Register)) : RegisterTable :=
  entries.foldl (fun t e => t.insert e.1 e.2) []

end RegisterTable

structure Producer where
  /-- The name of the description, as messages show it. -/
  kind : String
  /-- The label under which a meter is reported. -/
  meterType : String
  /-- The function of all its reads. -/
  function : Int
  /-- The label that is read to detect a meter. -/
  probeLabel : String
  registers : RegisterTable
deriving DecidableEq

namespace Producer

def name (p : Producer) : String := "<" ++ p.kind ++ " " ++ p.meterType ++ ">"

def requestFor (p : Producer) (device : Int) (label : String) (register : Register) : Request where
  device := device
  function := p.function
  address := register.address
  count := register.decoder.registerCount
  decoder := register.decoder
  label := some label

def request (p : Producer) (device : Int) (label : String) : Except Failure Request :=
  match p.registers.lookup label with
  | some register => .ok (p.requestFor device label register)
  | none => .error (.unknownLabel label)

/-- The request that detects a meter. -/
def probe (p : Producer) (device : Int) : Except Failure Request := p.request device p.probeLabel

/-- One request for each register, by ascending address; registers at one address keep the order of
the table. -/
def requests (p : Producer) (device : Int) : List Request :=
  (p.registers.mergeSort fun a b => a.2.address ≤ b.2.address).map fun e =>
    p.requestFor device e.1 e.2

end Producer

end MeterPolling
