import Fleet.Module.Listening

/-!
# Running a module

A module asks its controller, sets devices up, runs its units, cleans up in reverse order and
reports everything as one run. A failing setup step keeps the units from running but not the
cleanup of what was set up. A unit that loses its device ends the running; other failures of units
are recorded and the next unit runs. Only a lost device makes the run return an error.
-/

namespace Fleet

namespace Module

variable {E : Interface}

/-- Write a log line about the module. -/
def log (level : LogLevel) (event message : String) : Flow E Module Unit := do
  Flow.log level (← get).id "module" event message

/-- Request a state; a refusal is logged and otherwise ignored. -/
def transition (next : ModuleState) : Flow E Module Unit := do
  match (← get).lifecycle.transitionTo next with
  | .ok lifecycle => modify ({ · with lifecycle })
  | .error error => log .error "illegal_transition" error.message

/-- What an operation of a part of the module came to; a standard exception becomes an error. -/
def settle (origin : String) (category : ErrorCategory) : Exit → Flow E Module Outcome
  | .ok outcome => return outcome
  | .error (.standard what) => return .error { category, code := 402, message := what, origin }
  | .error .other => throw .other

/-- A setup error, filled in with the preparer it came from if it names no origin. -/
def withOrigin (preparerName : String) (error : TaskError) : TaskError :=
  if error.origin.isEmpty then { error with origin := preparerName } else error

/-- Set one device up with one preparer, which is remembered first so that it is torn down even if
it fails. -/
def setUpOne (preparer : Preparer) (device : Device) (build : Option Build) :
    Flow E Module (Option TaskError) := do
  if preparer.disabled then
    log .debug "preparer_disabled" (preparer.name ++ " is disabled, skipping setup")
    return none
  modify fun module =>
    { module with prepared := module.prepared ++ [{ preparer, device, build }] }
  match ← settle preparer.name .targetSetup
      (← Flow.request (.setUp preparer device build)) with
  | .ok () => return none
  | .error error => return some (withOrigin preparer.name error)

/-- Set one device up with several preparers, up to the first failure. -/
def setUpDevice (device : Device) (build : Option Build) :
    List Preparer → Flow E Module (Option TaskError)
  | [] => return none
  | preparer :: rest => do
    match ← setUpOne preparer device build with
    | some error => return some error
    | none => setUpDevice device build rest

/-- Set up the devices named in a preparer map, up to the first failure. -/
def setUpDevices : List (String × List Preparer) → Flow E Module (Option TaskError)
  | [] => return none
  | (name, preparers) :: rest => do
    let module ← get
    match module.resolveDevice name with
    | none =>
      return some
        { category := .configuration, code := 501,
          message := "No device allocated for '" ++ name ++ "'", origin := module.id }
    | some device =>
      match ← setUpDevice device (module.resolveBuild name) preparers with
      | some error => return some error
      | none => setUpDevices rest

/-- Set all devices up with several preparers, up to the first failure. -/
def setUpAll : List MultiPreparer → Flow E Module (Option TaskError)
  | [] => return none
  | preparer :: rest => do
    if preparer.disabled then setUpAll rest
    else
      modify fun module =>
        { module with preparedMulti := module.preparedMulti ++ [preparer] }
      match ← settle preparer.name .targetSetup
          (← Flow.request (.setUpAll preparer (← get).context)) with
      | .error error => return some (withOrigin preparer.name error)
      | .ok () => setUpAll rest

/-- Set everything up; the result is the failure that ended it. -/
def prepare : Flow E Module (Option TaskError) := do
  match ← setUpDevices (← get).preparers with
  | some error => return some error
  | none => setUpAll (← get).multiPreparers

/-- Hand a unit its dependencies and run it. -/
def runUnit (conducts : Conducts E) (unit : TestUnit) : Flow E Module Outcome := do
  let dependencies := (← get).dependencies unit.capabilities
  dependencies.forM fun dependency => do
    Flow.resume (← Flow.request (.provide unit dependency))
  settle unit.name .runtime
    (← Flow.attempt (Flow.perform answerStage ((conducts unit).run dependencies)))

/-- Record that a unit failed: the open case is closed, and the failure is noted unless test cases
are skipped. -/
def recordUnitFailure (error : TaskError) (module : Module) : Module :=
  { module with
    result :=
      if module.skipsTests then module.result.ignoreOpen
      else (module.result.failOpen error.describe).runFailed error.message }

/-- Run units one after the other, up to one that loses its device. -/
def runUnits (conducts : Conducts E) : List TestUnit → Flow E Module (Option TaskError)
  | [] => return none
  | unit :: rest => do
    if !(← get).allows unit then
      log .info "runner_skipped" (unit.runnerId
        ++ " is not part of the runner allow-list, skipping")
      runUnits conducts rest
    else
      match ← runUnit conducts unit with
      | .ok () => runUnits conducts rest
      | .error error =>
        modify (recordUnitFailure error)
        if error.isDeviceLoss then
          log .error "device_lost" ("Device lost while running " ++ unit.name ++ ": "
            ++ error.message)
          return some error
        else
          log .error "unit_failed" (unit.name ++ " failed: " ++ error.describe
            ++ ". Proceeding to the next unit.")
          runUnits conducts rest

/-- Note how a cleanup ended; the first failure is kept. -/
def noteTearDown (preparerName : String) (first : Option TaskError) :
    Outcome → Flow E Module (Option TaskError)
  | .ok () => return first
  | .error error => do
    log .error "teardown_failed" (preparerName ++ ": " ++ error.describe)
    return first <|> some error

/-- Clean up with preparers of all devices, in the order given. -/
def tearDownAll (failure : Option TaskError) (first : Option TaskError) :
    List MultiPreparer → Flow E Module (Option TaskError)
  | [] => return first
  | preparer :: rest => do
    let outcome ← settle preparer.name .targetSetup
      (← Flow.request (.tearDownAll preparer (← get).context failure))
    tearDownAll failure (← noteTearDown preparer.name first outcome) rest

/-- Clean up with preparers of single devices, in the order given. -/
def tearDownDevices (failure : Option TaskError) (first : Option TaskError) :
    List PreparedTarget → Flow E Module (Option TaskError)
  | [] => return first
  | target :: rest => do
    if target.preparer.cleaner then
      let outcome ← settle target.preparer.name .targetSetup
        (← Flow.request (.tearDown target.preparer target.device target.build failure))
      tearDownDevices failure (← noteTearDown target.preparer.name first outcome) rest
    else tearDownDevices failure first rest

/-- Clean up everything that was set up, in reverse order; the result is the first failure. -/
def tearDown (failure : Option TaskError) : Flow E Module (Option TaskError) := do
  let first ← tearDownAll failure none (← get).preparedMulti.reverse
  let first ← tearDownDevices failure first (← get).prepared.reverse
  modify ({ · with prepared := [], preparedMulti := [] })
  return first

/-- Set up and run the units; the result is the failure that ended it. -/
def prepareAndRun (conducts : Conducts E) : Flow E Module (Option TaskError) := do
  transition .preparing
  match ← prepare with
  | some error =>
    log .error "preparation_failed" error.describe
    modify (·.recordSyntheticFailure error "preparationError")
    return some error
  | none =>
    transition .running
    runUnits conducts (← get).tests

/-- What a module run comes to: a lost device is returned, any other failure is only recorded. A
failed cleanup counts only if nothing failed before. -/
def outcomeOf (failure tearDownFailure : Option TaskError) : Outcome :=
  match failure <|> tearDownFailure with
  | some error => if error.isDeviceLoss then .error error else .ok ()
  | none => .ok ()

/-- Ask the controller what to do with the module. -/
def askController : Flow E Module RunStrategy := do
  let module ← get
  match module.config.bind (·.controller) with
  | some controller => Flow.request (.shouldRun controller module.context)
  | none => return .run

/-- Everything from the first setup to the report. -/
def runPhases (conducts : Conducts E) (startedAt : Int) : Flow E Module Outcome := do
  let failure ← prepareAndRun conducts
  transition .tearingDown
  let tearDownFailure ← tearDown failure
  if let (none, some error) := (failure, tearDownFailure) then
    modify (·.recordSyntheticFailure error "tearDownError")
  transition .done
  let finishedAt ← Flow.request .clock
  let module ← get
  (module.result.replay module.id (finishedAt - startedAt)).forM (Flow.send 0)
  return outcomeOf failure tearDownFailure

/-- Run the module. -/
def run (conducts : Conducts E) : Flow E Module Outcome := do
  let startedAt ← Flow.request .clock
  transition .controllerCheck
  modify ({ · with strategy := .run })
  let strategy ← askController
  modify ({ · with strategy })
  match strategy with
  | .fullModuleBypass =>
    log .info "module_bypassed" ("Module controller requested a full bypass of "
      ++ (← get).id)
    transition .bypassed
    return .ok ()
  | .skipModuleTestcases =>
    log .info "module_testcases_skipped" ("Module controller requested to skip the test cases of "
      ++ (← get).id)
    modify attachDefaultDevice
    runPhases conducts startedAt
  | .run =>
    modify attachDefaultDevice
    runPhases conducts startedAt

end Module

end Fleet
