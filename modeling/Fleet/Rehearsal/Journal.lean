import Fleet.Cloud.VirtualDevice
import Fleet.Module.Run

/-!
# Journals

What a rehearsal writes down: every question the scheduler asks of a scripted collaborator, in
order.
-/

namespace Fleet.Rehearsal

/-- What a running unit did or was given. -/
inductive UnitNote where
  | provided (dependency : Dependency)
  /-- It began to run, with this device. -/
  | ran (device : Option Device)
  /-- It had a device checked before and after. -/
  | checked (before after : Outcome)
  /-- It was asked to report that it did not run. -/
  | notExecuted (message : String)

/-- What a metric collector was asked. -/
inductive CollectorNote where
  | init (context : Option Context)
  | runStart (context : Option Context)
  | runEnd (metrics : Metrics)
  | testStart (test : TestDescription)
  | testEnd (test : TestDescription) (metrics : Metrics)

/-- What the cloud was asked. -/
inductive CloudNote where
  /-- The start with this number, counted from 1. -/
  | start (number : Nat)
  | shutdown (name : String)
  | fetchSerialLog (name : String)
  | fetchRemoteFile (name path : String)

/-- What a device was asked. -/
inductive DeviceNote where
  | await (timeoutMs : Int)
  | reboot
  | reset

/-- One line of a journal. -/
inductive Entry where
  | log (entry : LogEntry)
  | record (level : LogLevel) (event : DeviceEvent) (details : Dict String)
  /-- An event reached a listener; `timed` tells whether its elapsed time is known beforehand. -/
  | event (listener : String) (event : Event) (timed : Bool)
  | device (serial : String) (note : DeviceNote)
  | cloud (note : CloudNote)
  | save (log : String) (kind : LogKind) (data : String)
  | hasToken (serial token : String) (answer : Bool)
  | unit (unit : TestUnit) (note : UnitNote)
  | setUp (preparer serial : String) (build : Option Build)
  | tearDown (preparer serial : String) (build : Option Build) (failure : Option TaskError)
  | setUpAll (preparer : String) (devices : List String)
  | tearDownAll (preparer : String) (devices : List String) (failure : Option TaskError)
  | controller (attributes : Dict (List String)) (abi : Option Abi)
  | collector (name : String) (note : CollectorNote)
  /-- A status checker looked at a device, before or after the execution. -/
  | checker (name : String) (before : Bool) (serial : String)

end Fleet.Rehearsal
