import Fleet.Outside

/-!
# Virtual devices

A virtual device is backed by an instance in a cloud. It is recovered by replacing the instance:
the old one is shut down, then a new one is started. An instance that did not boot is still held,
so that it can be shut down later; its serial log is stored for inspection.
-/

namespace Fleet

/-- How a started instance is doing. -/
inductive InstanceStatus where
  /-- The device on it is reachable. -/
  | success
  /-- It could not be created. -/
  | fail
  /-- It exists, but the device on it never came up. -/
  | bootFail
  /-- It exists, but the device on it dropped. -/
  | deviceOffline
  deriving DecidableEq, Repr

/-- The printed name of an instance status. -/
def InstanceStatus.label : InstanceStatus → String
  | success => "SUCCESS"
  | fail => "FAIL"
  | bootFail => "BOOT_FAIL"
  | deviceOffline => "DEVICE_OFFLINE"

/-- What the cloud reports about a started instance. -/
structure CloudInstance where
  name : String
  host : String
  port : Int
  status : InstanceStatus
  /-- What went wrong, if anything did. -/
  errors : String
  deriving DecidableEq, Repr

/-- What a virtual device asks of the cloud and of its log saver. -/
inductive CloudRequest where
  /-- Create and boot an instance. -/
  | start
  /-- Remove an instance. -/
  | shutdown (instance_ : CloudInstance)
  /-- Read what an instance wrote to its serial port. -/
  | fetchSerialLog (instance_ : CloudInstance)
  /-- Read a file of an instance. -/
  | fetchRemoteFile (instance_ : CloudInstance) (path : String)
  /-- Store log data. -/
  | save (log : String) (kind : LogKind) (data : String)
  /-- Write a log line. -/
  | log (entry : LogEntry)

/-- The cloud behind a virtual device. -/
@[reducible] def cloud : Interface where
  Question := CloudRequest
  Answer
    | .start => Except TaskError CloudInstance
    | .shutdown _ => Outcome
    | .fetchSerialLog _ | .fetchRemoteFile .. => Except TaskError String
    | .save .. => Except TaskError LogFile
    | .log _ => Unit

/-- A device backed by a cloud instance. -/
structure VirtualDevice where
  serial : String
  /-- Whether there is a log saver. -/
  hasSaver : Bool
  /-- The instance held, whether or not its device is reachable. -/
  held : Option CloudInstance := none
  properties : Dict String := .empty
  /-- How often the instance was reset. -/
  resets : Nat := 0
  deriving DecidableEq

namespace VirtualDevice

/-- An operation of a virtual device. -/
abbrev Operation (α : Type) := StateT VirtualDevice (Session cloud) α

/-- Ask the cloud. -/
def ask (question : CloudRequest) : Operation (cloud.Answer question) :=
  liftM (Session.query (Q := cloud) question)

/-- Write a log line about the device. -/
def log (level : LogLevel) (event message : String) : Operation Unit := do
  ask (.log { level, trace := (← get).serial, component := "virtual_device", event, message })

/-- Store the serial log of an instance, if there is a saver; failing to is only logged. -/
def saveSerialLog (started : CloudInstance) : Operation Unit := do
  let device ← get
  if device.hasSaver then
    match ← ask (.fetchSerialLog started) with
    | .error error => log .warn "serial_log_unavailable" error.message
    | .ok data =>
      match ← ask (.save ("gce_serial_log_" ++ device.serial) .text data) with
      | .error error => log .warn "serial_log_save_failed" error.message
      | .ok _ => pure ()

/-- The error of an instance whose device is not reachable. -/
def unusable (serial : String) (started : CloudInstance) : TaskError :=
  { category := .targetSetup, code := 201,
    message := "Instance " ++ started.name ++ " for " ++ serial ++ " is "
      ++ started.status.label ++ ": " ++ started.errors,
    origin := "virtual_device", details := Dict.empty.insert "serial" serial }

/-- Start an instance and hold it, usable or not. -/
def start : Operation Outcome := do
  match ← ask .start with
  | .error error => return .error error
  | .ok started =>
    modify ({ · with held := some started })
    if started.status = .bootFail then saveSerialLog started
    if started.status = .success then
      log .info "instance_started" ("Instance " ++ started.name ++ " at " ++ started.host ++ ":"
        ++ toString started.port)
      return .ok ()
    else return .error (unusable (← get).serial started)

/-- Start the instance behind the device. An instance held already is not shut down. -/
def launch : Operation Outcome :=
  start

/-- Shut the held instance down, if there is one, and let go of it even if that fails. -/
def release : Operation Outcome := do
  match (← get).held with
  | none => return .ok ()
  | some held =>
    let outcome ← ask (.shutdown held)
    modify ({ · with held := none })
    return outcome

/-- Whether the device on the held instance is reachable; there is nothing to wait for. -/
def waitForAvailable : Operation Outcome := do
  let device ← get
  if device.held.any (·.status = .success) then return .ok ()
  else
    return .error (.deviceNotAvailable
      ("Virtual device " ++ device.serial ++ " has no running instance") device.serial)

/-- Replace the instance. A stale instance that cannot be shut down does not block the restart. -/
def reset : Operation Bool := do
  modify fun device => { device with resets := device.resets + 1 }
  if let some held := (← get).held then
    if let .error error := ← ask (.shutdown held) then
      log .warn "shutdown_failed" error.message
    modify ({ · with held := none })
  match ← start with
  | .ok () => return true
  | .error error =>
    log .error "reset_failed" error.message
    return false

/-- Reboot by replacing the instance. -/
def reboot : Operation Outcome := do
  if ← reset then return .ok ()
  else
    let serial := (← get).serial
    return .error (.deviceNotAvailable ("Virtual device " ++ serial ++ " failed to reset") serial)

/-- Store a file of the held instance. -/
def saveRemoteFile (path : String) (kind : LogKind) : Operation (Except TaskError LogFile) := do
  let device ← get
  match device.held with
  | none =>
    return .error (.deviceNotAvailable ("No instance to fetch " ++ path ++ " from") device.serial)
  | some held =>
    if device.hasSaver then
      match ← ask (.fetchRemoteFile held path) with
      | .error error => return .error error
      | .ok data => ask (.save path kind data)
    else return .error (.configuration ("No log saver configured for " ++ device.serial))

/-- Bind a property of the device. -/
def setProperty (key value : String) (device : VirtualDevice) : VirtualDevice :=
  { device with properties := device.properties.insert key value }

/-- Look up a property of the device. -/
def property (device : VirtualDevice) (key : String) : Option String :=
  device.properties.get? key

end VirtualDevice

end Fleet
