import Fleet.Cloud.VirtualDevice
import Fleet.Module.Run
import Fleet.Rehearsal.Cue
import Fleet.Token
import Fleet.Validation

/-!
# Scripts

How the collaborators of the scheduler behave in a rehearsal: devices with prepared answers, units
with a fixed body, preparers that fail on demand, and so on.
-/

namespace Fleet.Rehearsal

/-- A log saver that invents a place for each log and refuses some by name. -/
structure SaverScript where
  /-- What a path starts with. -/
  pathStart : String := "/logs/"
  /-- The logs that cannot be stored. -/
  refusals : Dict TaskError := .empty

/-- Where a scripted saver says it stored a log. -/
def SaverScript.place (script : SaverScript) (log : String) (kind : LogKind) : LogFile :=
  let path := script.pathStart ++ log
  { path, url := "mem:" ++ path, isText := kind ≠ .png, isCompressed := kind = .zip }

/-- What starting an instance comes to. -/
inductive StartScript where
  | fails (error : TaskError)
  /-- The instance's name is made up if none is given. -/
  | starts (name : Option String) (host : String) (port : Int) (status : InstanceStatus)
      (errors : String)

/-- An instance that starts without anything being said about it. -/
def StartScript.plain : StartScript :=
  .starts none "10.0.0.1" 6520 .success ""

/-- A cloud with prepared answers. -/
structure CloudScript where
  starts : Cue StartScript := {}
  shutdowns : Cue Outcome := {}
  /-- Serial logs; without one the log names its instance. -/
  serialLogs : Cue (Option (Except TaskError String)) := {}
  /-- Remote files by path; any other file names its path and instance. -/
  remoteFiles : Dict (Except TaskError String) := .empty
  /-- How often an instance was asked for. -/
  started : Nat := 0

/-- A device with prepared answers. -/
structure DeviceScript where
  waits : Cue Outcome := {}
  reboots : Cue Outcome := {}
  resets : Cue Bool := {}
  properties : Dict String := .empty

/-- How a device behaves. -/
inductive DeviceRole where
  /-- It answers as prepared and leaves a trace in the journal. -/
  | scripted (script : DeviceScript)
  /-- It has nothing but its serial: waiting and rebooting succeed, resetting does not. -/
  | bare
  /-- It is backed by a scripted cloud, and stores logs with a saver if it has one. -/
  | hosted (device : VirtualDevice) (cloud : CloudScript) (saver : Option SaverScript)

/-- A token provider that leaves a trace in the journal. -/
inductive ProviderScript where
  /-- The devices with these serials hold every token. -/
  | serials (serials : Names)
  | property (provider : PropertyProvider)

/-- The check of an option value. -/
inductive ValueCheck where
  | nonempty
  /-- One or more decimal digits. -/
  | digits
  | startsWith (start : String)
  | oneOf (values : List String)
  | always (answer : Bool)
  | throws (thrown : Thrown)

/-- What a check says of a value. -/
def ValueCheck.holds : ValueCheck → String → Except Thrown Bool
  | nonempty, value => .ok !value.isEmpty
  | digits, value => .ok (!value.isEmpty && value.toList.all Char.isDigit)
  | startsWith start, value => .ok (start.toList.isPrefixOf value.toList)
  | oneOf values, value => .ok (values.contains value)
  | always answer, _ => .ok answer
  | throws thrown, _ => .error thrown

/-- One thing a unit does while it runs. -/
inductive Action where
  | send (event : Event)
  /-- End with an error. -/
  | fail (error : TaskError)
  | throw (thrown : Thrown)
  | setProperty (serial key value : String)
  /-- Put every received collector around the listener. -/
  | wrap
  /-- Have every received checker look at the device. -/
  | check

/-- What a unit does when asked to report that it did not run. -/
inductive ReportScript where
  /-- A run that is announced, failed and ended. -/
  | events
  | nothing
  | throws (thrown : Thrown)

/-- How a unit behaves. -/
structure UnitScript where
  options : Except Thrown (List UnitOption) := .ok []
  /-- What it does; left out, it runs one test that passes. -/
  body : Option (List Action) := none
  report : ReportScript := .events

/-- How a preparer behaves. -/
structure PreparerScript where
  setUp : Exit := .ok (.ok ())
  tearDown : Exit := .ok (.ok ())

/-- How a module controller decides. -/
inductive ControllerScript where
  | always (strategy : RunStrategy)
  /-- By the width of the module's binary interface; a width not listed means to run. -/
  | byBitness (strategies : Dict RunStrategy)

/-- How a metric collector behaves: it binds metrics of its own, replacing those it is given. -/
structure CollectorScript where
  name : String
  runStart : Metrics := .empty
  runEnd : Metrics := .empty
  testEnd : Metrics := .empty
  /-- What it throws when it is started, if anything. -/
  thrown : Option Thrown := none

/-- How a status checker behaves. -/
structure CheckerScript where
  before : Outcome := .ok ()
  after : Outcome := .ok ()

/-- A listener that writes down every event, and then throws on some kinds. -/
structure RecorderScript where
  name : String
  /-- What it throws after an event of each kind. -/
  throwOn : Dict Thrown := .empty
  /-- The run announced last. -/
  lastRun : Option String := none

/-- A unit of a rehearsal: one with a script, or a module with units of its own. -/
inductive Role where
  | scripted (unit : TestUnit) (script : UnitScript)
  | module (unit : TestUnit) (parts : List Role)

/-- The unit a role is for. -/
def Role.unit : Role → TestUnit
  | scripted unit _ | module unit _ => unit

end Fleet.Rehearsal
