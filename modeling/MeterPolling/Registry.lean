import MeterPolling.Notice
import MeterPolling.Producer.Shipped
/-!
The producers by name. They are discovered among packages, of which any may be broken or expose no
producer, and are kept in ascending order of their names. An order given by the user comes first
when producers are tried one after the other.
-/
namespace MeterPolling

/-- What a package exposes under the name where a producer is expected. -/
inductive Exposure where
  | producer (p : Producer)
  | nothing
  /-- A value that is no description of a family of meters. -/
  | somethingElse

/-- What is found where producers are looked for. -/
inductive Finding where
  /-- A plain module, which is not looked at. -/
  | plainModule
  | broken
  | package (exposure : Exposure)

def Finding.isPackage : Finding → Bool
  | .plainModule => false
  | _ => true

/-- Producers in ascending order of their names, each name once. -/
structure Registry where
  entries : List (String × Producer)

namespace Registry

def names (r : Registry) : List String := r.entries.map (·.1)

/-- The full name of a package of producers. -/
def packageName (name : String) : String := "rtu_poller.producers." ++ name

/-- The producer in a finding, or what is to be said about it. -/
def examine (name : String) : Finding → Option Producer × List Notice
  | .plainModule => (none, [])
  | .broken => (none, [.packageBroken (packageName name)])
  | .package (.producer p) => (some p, [])
  | .package _ => (none, [.packageSkipped (packageName name)])

/-- Sorts out the findings, in the order in which they are looked at. Of two findings of one name
only the first is looked at. -/
def discover (findings : List (String × Finding)) : Registry × List Notice :=
  let looked := (findings.eraseDupsBy fun a b => a.1 == b.1).map fun e => (e.1, examine e.1 e.2)
  let producers := looked.filterMap fun e => e.2.1.map fun p => (e.1, p)
  (⟨producers.mergeSort fun a b => a.1 ≤ b.1⟩, looked.flatMap (·.2.2))

/-- What is always there: the packages of producers, and two modules among them. -/
def shippedFindings : List (String × Finding) := [
  ("dzg", .package (.producer .dzg)),
  ("factory", .plainModule),
  ("janitza", .package (.producer .janitza)),
  ("producer", .plainModule),
  ("sdm", .package (.producer .sdm))]

/-- All that is found where further things are given, in the order in which it is looked at: first
what is always there, then the packages given, by name. A name with a point in it is not a name of a
package, and a package hides a module of its name. Of two packages of one name the later one is
there. -/
def findings (given : List (String × Finding)) : List (String × Finding) :=
  let packages := given.filter fun e => e.2.isPackage && !e.1.contains '.'
  let packages := packages.reverse.eraseDupsBy fun a b => a.1 == b.1
  shippedFindings ++ packages.mergeSort fun a b => a.1 ≤ b.1

/-- The producers of the packages that are always there. -/
def shipped : Registry := (discover shippedFindings).1

def get (r : Registry) (name : String) : Except Failure Producer :=
  match r.entries.lookup name with
  | some p => .ok p
  | none => .error (.configuration (.unknownProducer name r.names))

/-- All producers, first the named ones in the order given, then the others by name. -/
def ordered (r : Registry) (order : List String) : Except Failure (List Producer) := do
  let named ← order.eraseDups.mapM r.get
  return named ++ (r.entries.filter fun e => !order.contains e.1).map (·.2)

end Registry

end MeterPolling
