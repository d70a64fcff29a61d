import MeterPolling.Config
/-!
The configuration that the program starts with: the file under the overrides of the command line,
with a port that is present. What changed is saved for the next start.
-/
namespace MeterPolling.Config

/-- The outcome of preparing a configuration, with the file as it is afterwards. -/
structure Startup where
  notices : List Notice
  file : File
  result : Except Failure Config

/-- Refuses a configuration whose port is not given or not present. -/
def requirePort (c : Config) (present : List String) : Except Failure Unit :=
  let port := c.get "com_port"
  if !port.isGiven then .error (.configuration .noPort)
  else if c.isUsable then .ok ()
  else do
    let shown ← port.shown.mapError .textless
    throw (.configuration (.portNotFound shown (← Ports.sorted present)))

/-- Loads the configuration, applies the overrides and saves what they changed. -/
def prepare (format : Format) (file : File) (present : List String) (overrides : Overrides) :
    Startup :=
  let (notices, loaded) := load format file present
  match loaded with
  | .error f => ⟨notices, file, .error f⟩
  | .ok c =>
    let (c, applied) := c.override overrides present
    match applied.bind fun _ => c.requirePort present with
    | .error f => ⟨notices, file, .error f⟩
    | .ok _ =>
      if c.isUnsaved then
        let (c, file, more, saved) := c.save format file
        ⟨notices ++ more, file, saved.map fun _ => c⟩
      else ⟨notices, file, .ok c⟩

end MeterPolling.Config
