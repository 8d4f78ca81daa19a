import Fleet.Flow
import Fleet.Lifecycle
import Fleet.Module.Controller
import Fleet.Module.RunResult

/-!
# Modules

A module is a group of units that share setup and teardown. Its preparers are filed by device
name, in setup order; what was prepared is remembered until it is torn down. Results are collected
and reported once, under the module's identity.
-/

namespace Fleet

/-- A device set up by a preparer. -/
structure PreparedTarget where
  preparer : Preparer
  device : Device
  build : Option Build
  deriving DecidableEq

/-- A module. -/
structure Module where
  id : String
  tests : List TestUnit
  /-- The preparers of each named device, in setup order. -/
  preparers : List (String × List Preparer)
  multiPreparers : List MultiPreparer
  config : Option Configuration
  /-- The devices, builds and attributes of the module. -/
  context : Context
  /-- The device the module was given. -/
  device : Option Device := none
  /-- The build the module was given. -/
  build : Option Build := none
  /-- The runners that may run; none named means all may. -/
  allowlist : Names := .empty
  /-- Where logs of the module are stored; without one they are passed on raw. -/
  saver : Option Nat := none
  lifecycle : Lifecycle ModuleState
  /-- What the controller decided last. -/
  strategy : RunStrategy := .run
  result : RunResult := {}
  /-- The devices set up so far, in setup order. -/
  prepared : List PreparedTarget := []
  /-- The preparers of all devices that were set up so far, in setup order. -/
  preparedMulti : List MultiPreparer := []

/-- The name under which a module files the device it was given. -/
def defaultDeviceName : String := "default-device"

namespace Module

/-- The context a new module starts with: its identity, its name and its binary interface. -/
def initialContext (id : String) (config : Option Configuration) : Context :=
  let context := ({} : Context).addAttribute moduleIdKey id
  match config with
  | none => context
  | some config =>
    let context :=
      if config.moduleName.isEmpty then context
      else context.addAttribute moduleNameKey config.moduleName
    match config.abi with
    | none => context
    | some abi => context.addAttribute moduleAbiKey abi.name

/-- A module that has not run. -/
def create (id : String) (tests : List TestUnit) (preparers : List (String × List Preparer))
    (multiPreparers : List MultiPreparer) (config : Option Configuration) : Module where
  id
  tests
  preparers
  multiPreparers
  config
  context := initialContext id config
  lifecycle := { owner := id, state := .created }

/-- What every module can receive and do as a unit. -/
def capabilities : Capabilities :=
  { build := true, device := true, notExecutedReport := true }

/-- The tokens a device needs to run the module. -/
def tokens (module : Module) : Names :=
  match module.config with
  | some config => config.tokens
  | none => .empty

/-- A device that is filed in the module's context if nothing else is. -/
def attachDefaultDevice (module : Module) : Module :=
  if module.context.deviceNames.isEmpty && module.device.isSome then
    let context := module.context.addDevice defaultDeviceName module.device
    let context :=
      if module.build.isSome then context.addBuild defaultDeviceName module.build else context
    { module with context }
  else module

/-- The name whose device stands for a name: itself if it holds a device, else the only name. -/
def resolveName (module : Module) (name : String) : Option String :=
  if (module.context.device name).isSome then some name
  else
    match module.context.deviceNames with
    | [only] => some only
    | _ => none

/-- The device a preparer filed under a name works on. -/
def resolveDevice (module : Module) (name : String) : Option Device :=
  (module.resolveName name).bind module.context.device

/-- The build a preparer filed under a name works with. -/
def resolveBuild (module : Module) (name : String) : Option Build :=
  (module.resolveName name).bind module.context.build

/-- The dependencies a unit of the module receives, in this order. -/
def dependencies (module : Module) (capabilities : Capabilities) : List Dependency :=
  let (build, device) :=
    match module.context.deviceNames with
    | [] => (module.build, module.device)
    | name :: _ => (module.context.build name, module.context.device name)
  [(capabilities.build, Dependency.build build),
   (capabilities.device, .device device),
   (capabilities.configuration, .configuration module.config),
   (capabilities.context, .context (some module.context)),
   (capabilities.deviceInfos, .deviceInfos module.context.allocation)].filterMap
    fun (declared, dependency) => if declared then some dependency else none

/-- Whether the allow-list lets a unit run. -/
def allows (module : Module) (unit : TestUnit) : Bool :=
  module.allowlist.isEmpty || module.allowlist.contains unit.runnerId

/-- The events by which a module reports that it did not run. -/
def notExecutedEvents (id message : String) : List Event :=
  [.runStarted id 0,
   .runFailed (if message.isEmpty then "Module " ++ id ++ " did not run." else message),
   .runEnded 0 .empty]

/-- Record a failure outside of any unit as a failed test case named for the kind of failure. -/
def recordSyntheticFailure (module : Module) (error : TaskError) (testName : String) : Module :=
  let test : TestDescription := { className := error.category.label, testName }
  let result := module.result.addExpected 1
  let result := (result.testStarted test).testFailed test error.describe
  let result := (result.testEnded test .empty).runFailed error.message
  { module with result }

end Module

end Fleet
