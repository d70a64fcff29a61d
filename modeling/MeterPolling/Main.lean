import MeterPolling.Program
import Std.Time.Format
/-!
The command-line program. It finds the configuration and the serial ports, runs the program, writes
the log and the configuration, and gives back the status. Without a driver of the serial line no
port can be opened, so it ends where the port is opened at the latest.
-/
namespace MeterPolling.Program

/-- A line on which nothing can be opened. -/
def closedBus : Bus where
  opening := .connects false
  copiesTimeout := true
  reply _ _ := .silence

/-- The directory of the configuration. -/
def configurationDirectory : IO String := do
  match ← IO.getEnv "XDG_CONFIG_HOME" with
  | some directory => return directory ++ "/rtu_poller"
  | none => return (← IO.getEnv "HOME").getD "" ++ "/.config/rtu_poller"

/-- What stands in the place of the file. -/
def readFile (path : String) : IO Config.File := do
  try return .content (← IO.FS.readBinFile path)
  catch e =>
    match e with
    | .noFileOrDirectory .. => return .missing
    | _ => return .blocked

/-- Whether a path leads to something. -/
def leadsSomewhere (path : String) : IO Bool := do
  try
    let _ ← IO.FS.realPath path
    return true
  catch _ => return false

/-- The names of the serial ports that are present. -/
def presentPorts : IO (List String) :=
  let kinds := ["/dev/ttyS", "/dev/ttyUSB", "/dev/ttyACM", "/dev/ttyAMA", "/dev/rfcomm"]
  (kinds.flatMap fun kind => (List.range 32).map fun n => kind ++ toString n).filterM leadsSomewhere

/-- A line of the log. -/
def logLine (date : String) (n : Notice) : String :=
  date ++ " - " ++ n.reporter.name ++ " - " ++ n.level.name ++ " - " ++ n.text

/-- Writes the log, and the configuration where it changed. -/
def finish (directory path : String) (before : Config.File) (r : Run) : IO UInt32 := do
  let date := (← Std.Time.PlainDateTime.now).format "uuuu-MM-dd HH:mm:ss"
  for (_, n) in r.logged do
    IO.println (logLine date n)
  match before, r.file with
  | .content old, .content new => if old != new then IO.FS.writeBinFile path new
  | _, .content new => do
    IO.FS.createDirAll directory
    IO.FS.writeBinFile path new
  | _, _ => pure ()
  match r.outcome with
  | .notStarted stop =>
    IO.print stop.output
    IO.eprint stop.errorOutput
  | .failed f => IO.println (date ++ " - root - ERROR - Uncaught top-level " ++ f.message?.getD "")
  | _ => pure ()
  return (r.outcome.status?.getD 1).toUInt32

end MeterPolling.Program

open MeterPolling.Program in
def main (arguments : List String) : IO UInt32 := do
  let directory ← configurationDirectory
  let path := directory ++ "/config.toml"
  let file ← readFile path
  finish directory path file (run arguments
    { format := .toml, file := file, ports := ← presentPorts, bus := closedBus, limit := 0 })
