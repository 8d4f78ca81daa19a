import Fleet.Host
import Fleet.Settings.Environment

/-!
# Data and log folders

Where the program keeps its data and its logs. The folders are created if they can be; whether
that worked is not asked.
-/

namespace Fleet.Settings

/-- Why no folder could be chosen: the place for temporary files is not a folder. -/
structure NoTemporaryFolder where
  path : String
  deriving DecidableEq, Repr

/-- Create a folder if that can be done. -/
def ensureFolder (path : String) : Hosted Unit := do
  discard <| Host.ask (.createFolders path)

/-- The place for temporary files, which has to be a folder. -/
def temporaryFolder (environment : Environment) : Hosted (Except NoTemporaryFolder String) := do
  let set := ["TMPDIR", "TMP", "TEMP", "TEMPDIR"].findSome? environment.get?
  let path := set.getD "/tmp"
  if ← Host.ask (.isFolder path) then return .ok path else return .error { path }

/-- What the data folder lies in. -/
def dataHome (environment : Environment) : Hosted (Except NoTemporaryFolder String) := do
  match text? environment "XDG_DATA_HOME", text? environment "HOME" with
  | some path, _ => return .ok path
  | none, some home => return .ok (joinPath (joinPath home ".local") "share")
  | none, none => temporaryFolder environment

/-- The data folder. -/
def dataFolder (environment : Environment) : Hosted (Except NoTemporaryFolder String) := do
  match ← dataHome environment with
  | .error error => return .error error
  | .ok home =>
    let path := joinPath home "tfleet"
    ensureFolder path
    return .ok path

/-- The log folder: one of its own if a variable says so, else inside the data folder. -/
def logFolder (environment : Environment) : Hosted (Except NoTemporaryFolder String) := do
  match text? environment "TFLEET_LOG_DIR" with
  | some path =>
    ensureFolder path
    return .ok path
  | none =>
    match ← dataFolder environment with
    | .error error => return .error error
    | .ok data =>
      let path := joinPath data "logs"
      ensureFolder path
      return .ok path

end Fleet.Settings
