import Fleet.Poller.Report
import Fleet.Validation

/-!
# The poller's loop, step by step

`Station.step` does what the poller's phase says and moves to the next phase. Whatever is thrown
on the way makes the poller leave, and a poller that leaves signs out exactly once. `Station.run`
takes steps until the poller has left; the pool bounds how many it can need.
-/

namespace Fleet

namespace Station

variable {E : Interface}

/-- Put the collectors around the poller's own listener, each around the one before. -/
def wireCollectors : Flow E Station Phase := do
  let resources := (← get).poller.resources
  (List.range resources.collectors.length).forM fun position => do
    let node := Poller.collectorNode position
    onNetwork (Network.wrap node resources.context (← get).poller.entry)
    modify (updatePoller ({ · with entry := node }))
  return .seekingGated

/-- Note a withdrawn unit and go on to dispatch it. -/
def withdraw (unit : TestUnit) : Flow E Station Phase := do
  modify (updatePoller fun poller => { poller with withdrawn := poller.withdrawn ++ [unit] })
  return .dispatching unit

/-- Look for a gated unit the device may take. -/
def seekGated : Flow E Station Phase := do
  let station ← get
  let (found, pool) ← Flow.work (station.floor.pool.pollGated station.poller.resources.device)
  modify (putPool pool)
  match found with
  | some unit => withdraw unit
  | none => return .seekingGeneric

/-- Take a generic unit; without one there is nothing left for this device. -/
def seekGeneric : Flow E Station Phase := do
  let (found, pool) := (← get).floor.pool.pollGeneric
  modify (putPool pool)
  match found with
  | some unit => withdraw unit
  | none =>
    transition .terminated
    log .info "pool_drained" ("No more units for this device, withdrew "
      ++ toString (← get).poller.withdrawn.length)
    return .leaving (.ok (.ok ()))

/-- Hand a unit its dependencies and validate its options. A unit that does not pass is dropped. -/
def dispatch (conducts : Conducts E) (unit : TestUnit) : Flow E Station Phase := do
  transition .dispatching
  let resources := (← get).poller.resources
  (resources.dependencies unit.capabilities).forM fun dependency => do
    Flow.resume (← Flow.request (.provide unit dependency))
  match ← Flow.resume ((conducts unit).validate "validation" unit.name) with
  | .error error =>
    modify (updatePoller fun poller => { poller with dropped := poller.dropped ++ [unit] })
    log .warn "validation_failed" ("Failed to validate the options of " ++ unit.name ++ ": "
      ++ error.message ++ ". Proceeding to next unit.")
    transition .polling
    return .seekingGated
  | .ok () =>
    transition .executing
    return .executing unit

/-- Give up: the poller leaves with an error. -/
def terminate (error : TaskError) : Flow E Station Phase := do
  transition .terminated
  return .leaving (.ok (.error error))

/-- Go on with the next unit. -/
def proceed : Flow E Station Phase := do
  transition .polling
  return .seekingGated

/-- Run a unit. Only a lost device can keep the poller from going on. -/
def execute (conducts : Conducts E) (unit : TestUnit) : Flow E Station Phase := do
  modify (updatePoller fun poller => { poller with executed := poller.executed ++ [unit] })
  let poller := (← get).poller
  match ← onNetwork (Poller.execute (conducts unit) poller.resources poller.entry unit) with
  | .ok () => proceed
  | .error error =>
    match error.category with
    | .deviceUnresponsive =>
      log .warn "device_unresponsive_ignored" ("Ignored unresponsive device during " ++ unit.name
        ++ " because recovery was successful: " ++ error.message ++ ". Proceeding to next unit.")
      proceed
    | .deviceNotAvailable =>
      if poller.resources.recovery.isSome then return .recovering unit error
      else terminate error
    | _ =>
      log .error "unit_failed" ("Caught a failure in " ++ unit.name ++ ": " ++ error.describe
        ++ ". Proceeding to next unit.")
      proceed

/-- Let the recovery policy decide about the device a unit lost. -/
def recover (unit : TestUnit) (error : TaskError) : Flow E Station Phase := do
  let station ← get
  match station.poller.resources.recovery with
  | none => terminate error
  | some policy =>
    match ← Flow.work (policy.handleLoss station.poller.resources.device error unit.name
        station.floor.running) with
    | .error error => terminate error
    | .ok () => proceed

/-- Sign out; the last poller out reports what never ran. -/
def signOut (exit : Exit) : Flow E Station Phase := do
  let (last, floor) := (← get).floor.countDown
  modify ({ · with floor })
  if last then
    modify (updatePoller ({ · with reportedNotExecuted := true }))
    return .reporting exit
  else return .left exit

/-- Do what a phase says; the result is the next phase. -/
def act (conducts : Conducts E) : Phase → Flow E Station Phase
  | .wiringCollectors => wireCollectors
  | .seekingGated => seekGated
  | .seekingGeneric => seekGeneric
  | .dispatching unit => dispatch conducts unit
  | .executing unit => execute conducts unit
  | .recovering unit error => recover unit error
  | .leaving exit => signOut exit
  | .reporting exit => do
    finalReport conducts
    return .left exit
  | .left exit => return .left exit

/-- Take one step. -/
def step (conducts : Conducts E) (station : Station) : Work E Station := do
  let (result, station) ← (act conducts station.poller.phase).run.run station
  let phase : Phase :=
    match result with
    | .ok phase => phase
    | .error thrown => .leaving (.error thrown)
  return station.updatePoller ({ · with phase })

/-- How many steps a phase is at most away from having left, if no unit is withdrawn any more. -/
def stepsLeft : Phase → Nat
  | .left _ => 0
  | .reporting _ => 1
  | .leaving _ => 2
  | .seekingGeneric => 3
  | .seekingGated => 4
  | .wiringCollectors | .recovering .. => 5
  | .executing _ => 6
  | .dispatching _ => 7

/-- A bound on the steps until the poller has left: each withdrawal makes the pool smaller. -/
def budget (station : Station) : Nat :=
  8 * station.floor.pool.size + stepsLeft station.poller.phase

/-- Take the given number of steps. -/
def steps (conducts : Conducts E) : Nat → Station → Work E Station
  | 0, station => return station
  | n + 1, station => do steps conducts n (← station.step conducts)

/-- Run the poller until it has left. -/
def run (conducts : Conducts E) (station : Station) : Work E Station :=
  station.steps conducts station.budget

end Station

end Fleet
