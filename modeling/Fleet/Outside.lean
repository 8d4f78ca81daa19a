import Fleet.TestUnit

/-!
# The outside world

Everything the scheduler asks of its surroundings: log lines, structured records, the clock,
devices, token providers, capability setters of units, metric collectors, preparers, module
controllers, log savers and the listener that finally receives the events. What a unit does on its
own errands is a second interface beside this one.
-/

namespace Fleet

/-- How urgent a log line is. -/
inductive LogLevel where
  | debug
  | info
  | warn
  | error
  deriving DecidableEq, Repr

/-- The printed name of a level. -/
def LogLevel.label : LogLevel → String
  | debug => "debug"
  | info => "info"
  | warn => "warn"
  | error => "error"

/-- One log line. -/
structure LogEntry where
  level : LogLevel
  /-- What the line belongs to: an invocation, a device or a module. -/
  trace : String
  component : String
  event : String
  message : String
  deriving DecidableEq, Repr

/-- A device event that is tracked across invocations. -/
inductive DeviceEvent where
  /-- A poller gave up on its device. -/
  | earlyTermination
  /-- A poller went on after its device came back. -/
  | recovered
  deriving DecidableEq, Repr

/-- The printed name of a device event. -/
def DeviceEvent.label : DeviceEvent → String
  | earlyTermination => "SHARD_POLLER_EARLY_TERMINATION"
  | recovered => "DEVICE_RECOVERED"

/-- A preparer of one device. -/
structure Preparer where
  id : Nat
  name : String
  disabled : Bool := false
  /-- Whether it cleans up after itself. -/
  cleaner : Bool := false
  deriving DecidableEq, Repr

/-- A preparer of all devices of a module at once. -/
structure MultiPreparer where
  id : Nat
  name : String
  disabled : Bool := false
  deriving DecidableEq, Repr

/-- A question to the outside world. -/
inductive Request where
  /-- Write a log line. -/
  | log (entry : LogEntry)
  /-- Record a device event. -/
  | record (level : LogLevel) (event : DeviceEvent) (details : Dict String)
  /-- Read the clock, in milliseconds. -/
  | clock
  /-- Hand an event to the listener behind an outlet. -/
  | send (outlet : Nat) (event : Event)
  /-- Store log data. -/
  | save (saver : Nat) (log : String) (kind : LogKind) (data : String)
  /-- Wait for a device to be online. -/
  | await (device : Device) (timeoutMs : Int)
  /-- Reboot a device. -/
  | reboot (device : Device)
  /-- Reset the instance behind a device. -/
  | reset (device : Device)
  /-- Look up a property of a device. -/
  | property (device : Device) (key : String)
  /-- Ask a provider whether a device holds a token. -/
  | holdsToken (provider : Nat) (device : Device) (token : String)
  /-- Hand a dependency to a unit that declared it. -/
  | provide (unit : TestUnit) (dependency : Dependency)
  /-- Tell a collector that it is about to wrap a listener. -/
  | collectorInit (collector : Nat) (context : Option Context)
  /-- The metrics a collector starts a run with. -/
  | collectorRunStart (collector : Nat) (context : Option Context)
  /-- What a collector makes of the metrics of an ending run. -/
  | collectorRunEnd (collector : Nat) (metrics : Metrics)
  /-- Tell a collector that a test starts. -/
  | collectorTestStart (collector : Nat) (test : TestDescription)
  /-- What a collector makes of the metrics of an ending test. -/
  | collectorTestEnd (collector : Nat) (test : TestDescription) (metrics : Metrics)
  /-- Ask a module controller for its decision. -/
  | shouldRun (controller : Nat) (context : Context)
  /-- Set up one device. -/
  | setUp (preparer : Preparer) (device : Device) (build : Option Build)
  /-- Clean up one device; `failure` is what ended the module. -/
  | tearDown (preparer : Preparer) (device : Device) (build : Option Build)
      (failure : Option TaskError)
  /-- Set up all devices of a module. -/
  | setUpAll (preparer : MultiPreparer) (context : Context)
  /-- Clean up all devices of a module. -/
  | tearDownAll (preparer : MultiPreparer) (context : Context) (failure : Option TaskError)

/-- The type of the answer to a question. -/
@[reducible] def Request.Answer : Request → Type
  | log _ | record .. | collectorTestStart .. => Unit
  | clock => Int
  | send .. | provide .. | collectorInit .. => Except Thrown Unit
  | save .. => Except TaskError LogFile
  | await .. | reboot _ => Outcome
  | reset _ | holdsToken .. => Bool
  | property .. => Option String
  | collectorRunStart .. | collectorRunEnd .. | collectorTestEnd .. => Metrics
  | shouldRun .. => RunStrategy
  | setUp .. | tearDown .. | setUpAll .. | tearDownAll .. => Except Thrown Outcome

/-- The outside world of the scheduler. -/
@[reducible] def outside : Interface where
  Question := Request
  Answer := Request.Answer

/-- The outside world together with the errands of the units. -/
@[reducible] def World (E : Interface) : Interface := outside.sum E

/-- A conversation of the scheduler with the outside world. -/
abbrev Work (E : Interface) (α : Type) := Session (World E) α

/-- Ask the outside world. -/
def request {E : Interface} (question : Request) : Work E question.Answer :=
  .ask (.inl question) .done

/-- Write a log line. -/
def logLine {E : Interface} (level : LogLevel) (trace component event message : String) :
    Work E Unit :=
  request (.log { level, trace, component, event, message })

end Fleet
