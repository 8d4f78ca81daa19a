import Fleet.Sim.Program

/-!
# The command line

Plays the simulator program against the machine: text goes to the standard output, files and
folders are real, and log lines are not shown.
-/

namespace Fleet

/-- The variables the program looks at. -/
def knownVariables : List String :=
  ["TFLEET_RECOVERY_WAIT_MS", "TFLEET_LOG_DIR", "TFLEET_LOG_LEVEL", "TFLEET_RUNNER_ALLOWLIST",
   "TFLEET_SIM_DEVICES", "TFLEET_SIM_UNITS", "XDG_DATA_HOME", "HOME", "TMPDIR", "TMP", "TEMP",
   "TEMPDIR"]

/-- The environment of the process. -/
def readEnvironment : IO Environment := do
  let set ← knownVariables.filterMapM fun name => do
    return (← IO.getEnv name).map fun value => (name, value)
  return .ofList set

/-- Do what is asked of the host. -/
def answerHost : (question : HostRequest) → IO (host.Answer question)
  | .log _ => return ()
  | .print text => IO.print text
  | .clock => return (← IO.monoMsNow : Nat)
  | .createFolders path => do
    try
      IO.FS.createDirAll path
      return .ok ()
    catch error => return .error (toString error)
  | .isFolder path => do
    try return ← (← IO.FS.realPath path).isDir
    catch _ => return false
  | .write path data => do
    try
      IO.FS.writeFile path data
      return .written
    catch _ => return .notOpened
  | .absolute path => do
    if isAbsolutePath path then return path
    else return joinPath (toString (← IO.currentDir)) path

end Fleet

/-- Run the simulator. -/
def main : IO UInt32 := do
  let program := Fleet.Sim.program Fleet.WorkPool.asGiven (← Fleet.readEnvironment)
  match ← program.run Fleet.answerHost with
  | .finished code => return code.toUInt32
  | .notStarted reason =>
    IO.eprintln ("no folder for temporary files: " ++ reason.path)
    return 134
  | .escaped _ => return 134
