import MeterPolling.Cooperative
import MeterPolling.Device
import MeterPolling.Link
import MeterPolling.Producer
/-!
The scanner. It visits every valid address in turn and probes it with one producer after the other;
the first producer that gets a reply wins the address. While it runs the session has the timeout of
the scanner, and afterwards the one it had before, however the scan ended.
-/
namespace MeterPolling

/-- What a scan found, by ascending address. -/
structure ScanReport where
  devices : List (Int × String)
  absent : List Int
deriving DecidableEq

namespace ScanReport

def empty : ScanReport := ⟨[], []⟩

/-- The type found at an address. -/
def meterType (r : ScanReport) (device : Int) : String := (r.devices.lookup device).getD "n/a"

def caveat : String :=
  "WARNING: This lists only the devices that responded to a known probe request. "
    ++ "Devices with different function code definitions might not be detected."

def summary (r : ScanReport) : List String :=
  s!"Found {r.devices.length} active devices:"
    :: r.devices.map (fun d => s!"* slave address {d.1}: type {d.2}") ++ [caveat]

end ScanReport

/-- The probing of one address. -/
inductive Probe where
  /-- The producers that were not tried yet. -/
  | trying (rest : List Producer)
  | waiting (producer : Producer) (request : Request) (exchange : Exchange) (rest : List Producer)
  | found (producer : Producer)
  | absent
  | failed (failure : Failure)
deriving DecidableEq

namespace Probe

def hasEnded : Probe → Bool
  | .trying _ | .waiting .. => false
  | _ => true

/-- Reports the reading that detected a device. -/
def settle (device : Int) (producer : Producer) (request : Request) (exchange : Exchange)
    (rest : List Producer) (link : Link) : Probe × Link :=
  match link.settleQuery exchange with
  | (link, .ok bytes) =>
    match request.decoder.decode bytes with
    | .ok value =>
      (.found producer, link.note (.deviceFound device producer.meterType request.label value))
    | .error f => (.failed (.decoding f), link)
  | (link, .error (.transport _)) => (.trying rest, link)
  | (link, .error f) => (.failed f, link)

def step (device : Int) (probe : Probe) (link : Link) : Probe × Link × Pause :=
  match probe with
  | .trying [] => (.absent, link, .continues)
  | .trying (producer :: rest) =>
    match producer.probe device with
    | .error f => (.failed f, link, .continues)
    | .ok request =>
      match link.beginQuery request with
      | (link, .error f) => (.failed f, link, .continues)
      | (link, .ok exchange) =>
        match exchange.pause? with
        | some pause => (.waiting producer request exchange rest, link, pause)
        | none => (.failed .tooLarge, link, .continues)
  | .waiting producer request exchange rest =>
    let (probe, link) := settle device producer request exchange rest link
    (probe, link, .continues)
  | p => (p, link, .ends)

end Probe

namespace Scanner

inductive Stage where
  | starting
  /-- The pause before an address, with what was found before it. -/
  | pacing (device : Int)
  | probing (device : Int) (probe : Probe)
  | done
  | failed (failure : Failure)
  | cancelled
deriving DecidableEq

end Scanner

structure Scanner where
  producers : List Producer
  timeout : Number
  probeDelay : Number
  /-- The timeout of the session before the scan. -/
  previous : Number
  report : ScanReport
  stage : Scanner.Stage

namespace Scanner

/-- A twentieth of a second to answer. -/
def defaultTimeout : Number := .real (.ofQuotient false 5 100)

/-- The pause before each address, a twenty-fifth of a second. -/
def defaultProbeDelay : Number := .real (.ofQuotient false 4 100)

def make (producers : List Producer) (timeout probeDelay : Number) : Scanner where
  producers := producers
  timeout := timeout
  probeDelay := probeDelay
  previous := timeout
  report := .empty
  stage := .starting

def hasEnded (s : Scanner) : Bool :=
  match s.stage with
  | .done | .failed _ | .cancelled => true
  | _ => false

def finish (s : Scanner) (link : Link) : Scanner × Link × Pause :=
  let link := link.setTimeout s.previous
  ({ s with stage := .done },
    s.report.summary.foldl (fun link line => link.note (.scanSummary line)) link, .ends)

def fail (s : Scanner) (link : Link) (f : Failure) : Scanner × Link × Pause :=
  ({ s with stage := .failed f }, link.setTimeout s.previous, .ends)

/-- Pauses before an address. A pause that is too long fails. -/
def pace (s : Scanner) (device : Int) (link : Link) : Scanner × Link × Pause :=
  match Pause.ofDelay? s.probeDelay with
  | some pause => ({ s with stage := .pacing device }, link, pause)
  | none => s.fail link .tooLarge

/-- Goes on to the address after the given one. -/
def goOn (s : Scanner) (device : Int) (link : Link) : Scanner × Link × Pause :=
  if device < Device.last then s.pace (device + 1) link else s.finish link

def step (s : Scanner) (link : Link) : Scanner × Link × Pause :=
  match s.stage with
  | .starting =>
    let link := link.note .scanStarted
    { s with previous := link.session.timeout }.pace Device.first (link.setTimeout s.timeout)
  | .pacing device => ({ s with stage := .probing device (.trying s.producers) }, link, .continues)
  | .probing device (.found producer) =>
    let report := { s.report with devices := s.report.devices ++ [(device, producer.meterType)] }
    { s with report := report }.goOn device link
  | .probing device .absent =>
    let report := { s.report with absent := s.report.absent ++ [device] }
    { s with report := report }.goOn device (link.note (.deviceAbsent device))
  | .probing _ (.failed f) => s.fail link f
  | .probing device probe =>
    let (probe, link, pause) := probe.step device link
    ({ s with stage := .probing device probe }, link, pause)
  | .done | .failed _ | .cancelled => (s, link, .ends)

def cancel (s : Scanner) (link : Link) : Scanner × Link :=
  match s.stage with
  | .starting => ({ s with stage := .cancelled }, link)
  | .done | .failed _ | .cancelled => (s, link)
  | _ => ({ s with stage := .cancelled }, link.setTimeout s.previous)

end Scanner

end MeterPolling
