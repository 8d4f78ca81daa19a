import Fleet.Configuration
import Fleet.Context
import Fleet.Error
import Fleet.Event
import Fleet.Session

/-!
# Test units

A test unit is one schedulable piece of work. The scheduler sees its identity, its capabilities
and the tokens it requires; how it behaves is its `Conduct`, which may be anything. A running unit
is on stage: it sends events, may wrap the listener it reports to with one of the metric
collectors it was handed, and may run errands in a world of its own.
-/

namespace Fleet

/-- The dependencies a unit declares it can receive, and whether it can report that it did not
run. -/
structure Capabilities where
  build : Bool := false
  device : Bool := false
  configuration : Bool := false
  context : Bool := false
  deviceInfos : Bool := false
  statusCheckers : Bool := false
  /-- The unit wires metric collectors itself. -/
  collectors : Bool := false
  notExecutedReport : Bool := false
  deriving DecidableEq, Repr

/-- What the scheduler sees of a unit. -/
structure TestUnit where
  /-- Tells units of one name apart. -/
  id : Nat
  /-- The printed name. -/
  name : String
  /-- The name an allow-list of runners knows it by. -/
  runnerId : String
  capabilities : Capabilities
  /-- A device must hold all of these to run the unit. -/
  tokens : Names
  deriving DecidableEq

/-- A device health check handed to units that accept it. -/
structure StatusChecker where
  id : Nat
  name : String
  deriving DecidableEq, Repr

/-- A dependency as it is handed to a unit. -/
inductive Dependency where
  | build (build : Option Build)
  | device (device : Option Device)
  | configuration (configuration : Option Configuration)
  | context (context : Option Context)
  | deviceInfos (infos : Allocation)
  | statusCheckers (checkers : List StatusChecker)
  /-- The metric collectors, by identity. -/
  | collectors (collectors : List Nat)
  deriving DecidableEq

/-- A declared option of a unit. -/
structure UnitOption where
  name : String
  value : Option String
  mandatory : Bool
  /-- The check a value has to pass, which may throw. -/
  check : Option (String → Except Thrown Bool)

/-- What a running unit may ask of whoever runs it. -/
inductive StageRequest where
  /-- Report an event to the listener in force. -/
  | send (event : Event)
  /-- Put the collector at a position of the received ones around the listener in force. -/
  | wrap (position : Nat) (context : Option Context)

/-- The stage a unit runs on: either request may fail by throwing. -/
@[reducible] def stage : Interface where
  Question := StageRequest
  Answer _ := Except Thrown Unit

/-- What a unit does on stage, with errands in a world `E` of its own in between. -/
abbrev Performance (E : Interface) (α : Type) := Session (stage.sum E) α

namespace Performance

variable {E : Interface}

/-- Report an event to the listener in force. -/
def send (event : Event) : Performance E (Except Thrown Unit) :=
  .ask (.inl (.send event)) .done

/-- Report several events, up to one the listener throws on. -/
def sendAll : List Event → Performance E (Except Thrown Unit)
  | [] => return .ok ()
  | event :: rest => do
    match ← send event with
    | .ok () => sendAll rest
    | .error thrown => return .error thrown

/-- Put a received collector around the listener in force. -/
def wrap (position : Nat) (context : Option Context) : Performance E (Except Thrown Unit) :=
  .ask (.inl (.wrap position context)) .done

/-- Run an errand. -/
def errand (question : E.Question) : Performance E (E.Answer question) :=
  .ask (.inr question) .done

end Performance

/-- How a unit behaves. -/
structure Conduct (E : Interface) where
  /-- The declared options. -/
  options : Except Thrown (List UnitOption)
  /-- Run with the dependencies received. -/
  run : List Dependency → Performance E (Except Thrown Outcome)
  /-- Report that it was not executed; an empty message gives no reason. -/
  reportNotExecuted : String → Performance E (Except Thrown Unit)

/-- The conduct of a unit that does nothing. -/
def Conduct.idle {E : Interface} : Conduct E where
  options := .ok []
  run _ := return .ok (.ok ())
  reportNotExecuted _ := return .ok ()

/-- The behaviour of every unit. -/
abbrev Conducts (E : Interface) := TestUnit → Conduct E

end Fleet
