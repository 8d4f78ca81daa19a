import Fleet.Recovery
import Fleet.Settings.Folders

/-!
# The settings of the program

All settings, read from the environment in a fixed order: warnings come in the order of the
fields. The sizes of the simulated fleet are kept in 32 bits.
-/

namespace Fleet

/-- The settings of the program. -/
structure Settings where
  /-- How long recovery waits for a device, in milliseconds. -/
  recoveryWaitMs : Int
  /-- The folder logs are kept in. -/
  logPath : String
  logLevel : String
  /-- The runners that may run in a module; none named means all may. -/
  allowlist : Names
  /-- The size of the simulated fleet. -/
  simDevices : Int
  simUnits : Int
  deriving DecidableEq

namespace Settings

/-- How long recovery waits if nothing is said about it. -/
def defaultRecoveryWaitMs : Int := ({} : RecoveryPolicy).waitTimeoutMs

/-- How many devices are simulated if nothing is said about it. -/
def defaultSimDevices : Int := 2

/-- How many units are simulated if nothing is said about it. -/
def defaultSimUnits : Int := 8

/-- Read a number and write the warning there may be. -/
def loadInteger (environment : Environment) (name : String) (fallback : Int)
    (allowZero : Bool) : Hosted Int := do
  let (value, warning) := integer environment name fallback allowZero
  if let some entry := warning then
    Host.ask (.log entry)
  return value

/-- Read all settings. -/
def load (environment : Environment) : Hosted (Except NoTemporaryFolder Settings) := do
  let recoveryWaitMs ←
    loadInteger environment "TFLEET_RECOVERY_WAIT_MS" defaultRecoveryWaitMs false
  match ← logFolder environment with
  | .error error => return .error error
  | .ok logPath =>
    let devices ← loadInteger environment "TFLEET_SIM_DEVICES" defaultSimDevices false
    let units ← loadInteger environment "TFLEET_SIM_UNITS" defaultSimUnits true
    return .ok
      { recoveryWaitMs, logPath,
        logLevel := (text? environment "TFLEET_LOG_LEVEL").getD "info",
        allowlist := names environment "TFLEET_RUNNER_ALLOWLIST",
        simDevices := low32 devices, simUnits := low32 units }

end Settings

end Fleet
