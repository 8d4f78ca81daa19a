import Fleet.Lifecycle
import Fleet.Listener.Network
import Fleet.Recovery
import Fleet.WorkPool

/-!
# Pollers

A poller is bound to one device. It withdraws units from the shared pool until nothing is left for
its device or the device is lost, and then leaves. The phase says what it does next; each phase is
one step that other pollers cannot interrupt. Pollers share the floor: the pool and the count of
pollers that have not left.
-/

namespace Fleet

/-- What pollers share. -/
structure Floor where
  pool : WorkPool
  /-- How many pollers have not left yet, in 64 bits. -/
  running : Int

/-- The 64-bit number before a number; the greatest one stands before the least one. -/
def countBefore (count : Int) : Int :=
  if count = -9223372036854775808 then 9223372036854775807 else count - 1

/-- Sign one poller out; the answer says whether it was the last one. -/
def Floor.countDown (floor : Floor) : Bool × Floor :=
  (floor.running = 1, { floor with running := countBefore floor.running })

/-- What a poller is equipped with. -/
structure Resources where
  device : Device
  build : Option Build := none
  configuration : Option Configuration := none
  context : Option Context := none
  /-- All devices of the invocation with their builds. -/
  deviceInfos : Allocation := []
  checkers : List StatusChecker := []
  /-- The metric collectors, by identity, in the order in which they wrap the listener. -/
  collectors : List Nat := []
  /-- What to do about a lost device; without a policy the poller gives up. -/
  recovery : Option RecoveryPolicy := none

/-- The dependencies a poller hands to a unit before validating it, in this order. -/
def Resources.dependencies (resources : Resources) (capabilities : Capabilities) :
    List Dependency :=
  [(capabilities.build, Dependency.build resources.build),
   (capabilities.configuration, .configuration resources.configuration),
   (capabilities.device, .device resources.device),
   (capabilities.context, .context resources.context),
   (capabilities.deviceInfos, .deviceInfos resources.deviceInfos),
   (capabilities.statusCheckers, .statusCheckers resources.checkers)].filterMap
    fun (declared, dependency) => if declared then some dependency else none

/-- What a unit has received when it runs: its dependencies, and the collectors if it wires them
itself. -/
def Resources.received (resources : Resources) (capabilities : Capabilities) : List Dependency :=
  resources.dependencies capabilities
    ++ if capabilities.collectors then [.collectors resources.collectors] else []

/-- What a poller does next. -/
inductive Phase where
  /-- Put the collectors around its listener. -/
  | wiringCollectors
  /-- Look for a gated unit. -/
  | seekingGated
  /-- No gated unit fits: take a generic one. -/
  | seekingGeneric
  /-- Wire and validate the withdrawn unit. -/
  | dispatching (unit : TestUnit)
  /-- Run the validated unit. -/
  | executing (unit : TestUnit)
  /-- Decide about the device the unit lost. -/
  | recovering (unit : TestUnit) (error : TaskError)
  /-- Sign out. -/
  | leaving (exit : Exit)
  /-- Last one out: report what never ran. -/
  | reporting (exit : Exit)
  /-- Nothing. -/
  | left (exit : Exit)

/-- One poller. -/
structure Poller where
  resources : Resources
  lifecycle : Lifecycle PollerState
  phase : Phase := .wiringCollectors
  /-- Its own listener, the collectors in front of it, and the guards of the units it ran. -/
  network : Network
  /-- Where units report that do not wire collectors themselves. -/
  entry : Nat := 0
  /-- The units withdrawn so far, in order. -/
  withdrawn : List TestUnit := []
  /-- Those whose options did not pass. -/
  dropped : List TestUnit := []
  /-- Those it went on to run. -/
  executed : List TestUnit := []
  /-- Whether this poller was the last one out. -/
  reportedNotExecuted : Bool := false
  /-- The units it asked to report that they did not run. -/
  asked : List TestUnit := []
  /-- The units that never ran and cannot say so. -/
  unreportable : List TestUnit := []

namespace Poller

/-- The poller's own listener in its network. -/
def ownListener : Nat := 0

/-- Where the collector at a position of the poller's collectors stands in its network. -/
def collectorNode (position : Nat) : Nat := position + 1

/-- A poller that has not started; it reports to the outlet 0. -/
def ofResources (resources : Resources) : Poller where
  resources
  lifecycle := { owner := resources.device.serial, state := .polling }
  network := .outlet 0 :: resources.collectors.map fun id => .collector { id } none

/-- A poller that has left, about to run once more: what it did before is kept. -/
def again (poller : Poller) : Poller :=
  { poller with phase := .wiringCollectors, entry := ownListener }

/-- How the poller's run ended, if it has left. -/
def exit? (poller : Poller) : Option Exit :=
  match poller.phase with
  | .left exit => some exit
  | _ => none

end Poller

/-- A poller at work on the floor it shares with others. -/
structure Station where
  poller : Poller
  floor : Floor

namespace Station

variable {E : Interface}

/-- Change the poller of a station. -/
def updatePoller (f : Poller → Poller) (station : Station) : Station :=
  { station with poller := f station.poller }

/-- Replace the pool of a station. -/
def putPool (pool : WorkPool) (station : Station) : Station :=
  { station with floor := { station.floor with pool } }

/-- Work on the poller's network. -/
def onNetwork {α : Type} (flow : Flow E Network α) : Flow E Station α :=
  flow.within (·.poller.network) fun station network =>
    station.updatePoller ({ · with network })

/-- The serial of the poller's device. -/
def serial (station : Station) : String :=
  station.poller.resources.device.serial

/-- Write a log line about the poller. -/
def log (level : LogLevel) (event message : String) : Flow E Station Unit := do
  Flow.log level (← get).serial "poller" event message

/-- Request a state; a refusal is logged and otherwise ignored. -/
def transition (next : PollerState) : Flow E Station Unit := do
  match (← get).poller.lifecycle.transitionTo next with
  | .ok lifecycle => modify (updatePoller ({ · with lifecycle }))
  | .error error => log .error "illegal_transition" error.message

end Station

end Fleet
