import Fleet.Error

/-!
# State machines

The states of a poller and of a module, the table of legal transitions of each, and the holder
that accepts a requested transition only if the table has it. A refused request leaves the state
as it was and is an internal error.
-/

namespace Fleet

/-- A set of states with a printed name for each, a table of legal transitions and a mark on the
terminal ones. -/
class StateMachine (σ : Type) where
  /-- The printed name of a state. -/
  label : σ → String
  /-- Whether the table has an edge from the first state to the second. -/
  legal : σ → σ → Bool
  /-- Whether the state is meant to be the last one. -/
  terminal : σ → Bool

/-- Where a poller stands. -/
inductive PollerState where
  /-- Withdrawing the next unit. -/
  | polling
  /-- Wiring and validating the withdrawn unit. -/
  | dispatching
  /-- Running the unit on the device. -/
  | executing
  /-- Nothing left for this device, or the device is lost. -/
  | terminated
  deriving DecidableEq, Repr

instance : StateMachine PollerState where
  label
    | .polling => "Polling"
    | .dispatching => "Dispatching"
    | .executing => "Executing"
    | .terminated => "Terminated"
  legal
    | .polling, .dispatching | .polling, .terminated => true
    | .dispatching, .executing | .dispatching, .polling => true
    | .executing, .polling | .executing, .terminated => true
    | _, _ => false
  terminal state := state = .terminated

/-- Where a module stands. -/
inductive ModuleState where
  /-- Built, not run yet. -/
  | created
  /-- Asking the controller what to do. -/
  | controllerCheck
  /-- The controller asked to leave the module out. -/
  | bypassed
  /-- Setting devices up. -/
  | preparing
  /-- Running the units. -/
  | running
  /-- Cleaning up. -/
  | tearingDown
  /-- Results are reported. -/
  | done
  deriving DecidableEq, Repr

instance : StateMachine ModuleState where
  label
    | .created => "Created"
    | .controllerCheck => "ControllerCheck"
    | .bypassed => "Bypassed"
    | .preparing => "Preparing"
    | .running => "Running"
    | .tearingDown => "TearingDown"
    | .done => "Done"
  legal
    | .created, .controllerCheck => true
    | .controllerCheck, .bypassed | .controllerCheck, .preparing => true
    | .preparing, .running | .preparing, .tearingDown => true
    | .running, .tearingDown => true
    | .tearingDown, .done => true
    | _, _ => false
  terminal state := state = .bypassed || state = .done

/-- The current state of a machine and who owns it. -/
structure Lifecycle (σ : Type) where
  /-- The owner, named in refusals. -/
  owner : String
  /-- The current state. -/
  state : σ
  deriving DecidableEq

namespace Lifecycle

variable {σ : Type} [StateMachine σ]

/-- Why a requested transition is refused. -/
def refusal (cycle : Lifecycle σ) (next : σ) : TaskError :=
  .internal ("Illegal state transition: " ++ StateMachine.label cycle.state ++ " -> "
    ++ StateMachine.label next ++ " (owner=" ++ cycle.owner ++ ")")

/-- Request a transition: the new state if the table has the edge, a refusal otherwise. -/
def transitionTo (cycle : Lifecycle σ) (next : σ) : Except TaskError (Lifecycle σ) :=
  if StateMachine.legal cycle.state next then .ok { cycle with state := next }
  else .error (cycle.refusal next)

end Lifecycle

end Fleet
