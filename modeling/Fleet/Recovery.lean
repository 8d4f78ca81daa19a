import Fleet.Outside

/-!
# Device recovery

What a poller does when a unit reports its device lost. While other pollers are still running the
device gets a chance: a physical one is waited for and rebooted, a virtual one has its instance
reset. The last running poller, and one whose device does not come back, gives up, and the
unit's own error comes back unchanged. Either way exactly one device event is recorded.
-/

namespace Fleet

/-- How patient recovery is. -/
structure RecoveryPolicy where
  /-- How long to wait for a physical device, in milliseconds. -/
  waitTimeoutMs : Int := 15 * 60 * 1000
  deriving DecidableEq, Repr

namespace RecoveryPolicy

variable {E : Interface}

/-- Try to bring a device back. -/
def tryRecover (policy : RecoveryPolicy) (device : Device) : Work E Bool :=
  match device.kind with
  | .virtual => do
    logLine .info device.serial "recovery" "virtual_reset"
      ("Resetting virtual instance of " ++ device.serial)
    if ← request (.reset device) then return true
    logLine .error device.serial "recovery" "virtual_reset_failed"
      ("Virtual device " ++ device.serial ++ " reset failed.")
    return false
  | .physical => do
    logLine .debug device.serial "recovery" "wait_for_device"
      ("Waiting up to " ++ toString policy.waitTimeoutMs
        ++ "ms for device to come back online.")
    match ← request (.await device policy.waitTimeoutMs) with
    | .error error =>
      logLine .warn device.serial "recovery" "wait_for_device_failed" error.message
      return false
    | .ok () =>
      match ← request (.reboot device) with
      | .error error =>
        logLine .warn device.serial "recovery" "reboot_failed" error.message
        return false
      | .ok () => return true

/-- Record a device event with the error that led to it. -/
def record (event : DeviceEvent) (device : Device) (error : TaskError) : Work E Unit :=
  let level : LogLevel :=
    match event with
    | .earlyTermination => .error
    | .recovered => .info
  request (.record level event
    (.ofList [("serial", device.serial), ("trace", error.describe)]))

/-- Decide what becomes of a poller whose unit lost its device: `ok` to go on, `error` to give up.
`running` is how many pollers have not left yet, this one included. -/
def handleLoss (policy : RecoveryPolicy) (device : Device) (error : TaskError)
    (unitName : String) (running : Int) : Work E Outcome := do
  let recovered ← if running > 1 then policy.tryRecover device else pure false
  if recovered then
    logLine .info device.serial "recovery" "poller_recovered"
      ("Poller recovered after " ++ device.serial ++ " went offline")
    record .recovered device error
    return .ok ()
  else
    logLine .error device.serial "recovery" "poller_terminating"
      ("Unit " ++ unitName ++ " lost its device. Poller associated with device " ++ device.serial
        ++ " is terminating.")
    record .earlyTermination device error
    return .error error

end RecoveryPolicy

end Fleet
