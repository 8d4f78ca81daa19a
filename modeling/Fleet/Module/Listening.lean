import Fleet.Module.Basic

/-!
# Listening to the units of a module

What happens to an event of a unit while a module runs. Results are collected; logs go straight to
the listener of the invocation, or through the module's saver. If test cases are to be skipped,
every started test is recorded as ignored and failures are dropped.
-/

namespace Fleet

namespace Module

variable {E : Interface}

/-- Whether the controller asked to skip the test cases. -/
def skipsTests (module : Module) : Bool :=
  module.strategy = .skipModuleTestcases

/-- What an event that is not about a log does to the results. -/
def collect (skip : Bool) (result : RunResult) : Event → RunResult
  | .runStarted _ count => result.addExpected count
  | .testStarted test =>
    if skip then (result.testStarted test).testIgnored test else result.testStarted test
  | .testFailed test trace => if skip then result else result.testFailed test trace
  | .testIgnored test => result.testIgnored test
  | .testEnded test metrics => result.testEnded test metrics
  | .runFailed message => if skip then result else result.runFailed message
  | .runEnded _ metrics => result.addMetrics metrics
  | .testLog .. | .logSaved .. => result

/-- Pass a raw log on, or store it and announce where it is. -/
def passLog (log : String) (kind : LogKind) (data : String) : Flow E Module Unit := do
  let module ← get
  match module.saver with
  | none => Flow.send 0 (.testLog log kind data)
  | some saver =>
    match ← Flow.request (.save saver log kind data) with
    | .error error =>
      Flow.log .error module.id "module" "log_save_failed"
        ("Failed to save " ++ log ++ ": " ++ error.message)
    | .ok file => Flow.send 0 (.logSaved log kind data file)

/-- Take one event of a unit. -/
def listen (event : Event) : Flow E Module Unit :=
  match event with
  | .testLog log kind data => passLog log kind data
  | .logSaved .. => Flow.send 0 event
  | _ => modify fun module =>
      { module with result := collect module.skipsTests module.result event }

/-- Answer a request of a unit on the module's stage. A module hands out no collectors, so there
is nothing to wrap the listener with. -/
def answerStage : StageRequest → Flow E Module Unit
  | .send event => listen event
  | .wrap .. => pure ()

end Module

end Fleet
