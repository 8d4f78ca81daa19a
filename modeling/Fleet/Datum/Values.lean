import Fleet.Datum.Basic
import Fleet.Invocation
import Fleet.Module.Basic
import Fleet.Cloud.VirtualDevice

/-!
# Domain values as data

How errors, outcomes, events, devices, results and statistics are written, and how errors and
events are read.
-/

namespace Fleet

open Datum

/-! ## Errors -/

/-- The fields of an error. -/
instance : ToDatum TaskError where
  toDatum error := record
    [("error", error.category.label), ("code", error.code), ("message", error.message),
     ("origin", error.origin), ("details", error.details)]

instance {α : Type} [ToDatum α] : ToDatum (Except TaskError α) where
  toDatum
    | .ok value => toDatum value
    | .error error => toDatum error

instance : ToDatum Outcome where
  toDatum
    | .ok () => text "ok"
    | .error error => toDatum error

instance : ToDatum Thrown where
  toDatum
    | .standard what => record [("error", "exception"), ("message", what)]
    | .other => record [("error", "exception"), ("message", nothing)]

instance : ToDatum Exit where
  toDatum
    | .ok outcome => toDatum outcome
    | .error thrown => toDatum thrown

/-- A text is thrown as a standard exception, anything else has no text. -/
instance : OfDatum Thrown where
  ofDatum
    | .text what => .ok (.saying what)
    | _ => .ok .other

/-- Read the short form of an error: its kind, its message and, where it names one, a serial. -/
def readShortError (datum : Datum) : Reading TaskError := do
  let message ← datum.nth 1
  let serial ← (datum.item 2).readD ""
  match ← datum.word with
  | "DeviceNotAvailable" => return .deviceNotAvailable message serial
  | "DeviceUnresponsive" => return .deviceUnresponsive message serial
  | "TargetSetup" => return .targetSetup message
  | "Build" => return .build message
  | "Validation" => return .validation message
  | "Runtime" => return .runtime message
  | "Configuration" => return .configuration message
  | "Internal" => return .internal message
  | other => throw ("unknown kind of error " ++ other)

/-- An error in its short form, or field by field; without a category nothing else counts. -/
instance : OfDatum TaskError where
  ofDatum datum := do
    match datum with
    | list _ => readShortError datum
    | _ =>
      let some label ← datum.get (α := Option String) "category" | return {}
      let some category := ErrorCategory.ofLabel? label | throw ("unknown category " ++ label)
      return { category, code := ← datum.getD "code" 0, message := ← datum.getD "message" "",
               origin := ← datum.getD "origin" "", details := ← datum.get "details" }

/-- Nothing stands for success. -/
instance : OfDatum Outcome where
  ofDatum
    | .nothing => .ok (.ok ())
    | datum => return .error (← datum.read)

/-! ## Devices -/

instance : ToDatum Device := ⟨fun device => text device.serial⟩
instance : ToDatum Build := ⟨fun build => text build.id⟩
instance : OfDatum Build := ⟨fun datum => return { id := ← datum.read }⟩
instance : ToDatum Abi := ⟨fun abi => toDatum [abi.name, abi.bitness]⟩
instance : ToDatum TestUnit := ⟨fun unit => text unit.name⟩

instance : ToDatum CloudInstance where
  toDatum started := list [started.name, started.host, started.port, started.status.label,
    started.errors]

/-- Which dependencies a unit receives and whether it reports, as a row of flags. -/
instance : ToDatum Capabilities where
  toDatum capabilities := toDatum
    [capabilities.build, capabilities.device, capabilities.configuration, capabilities.context,
     capabilities.deviceInfos, capabilities.statusCheckers, capabilities.collectors,
     capabilities.notExecutedReport]

/-! ## Events -/

instance : ToDatum TestDescription := ⟨fun test => toDatum [test.className, test.testName]⟩
instance : OfDatum TestDescription where
  ofDatum datum := return { className := ← datum.nth 0, testName := ← datum.nth 1 }

instance : ToDatum LogKind := ⟨fun kind => text kind.label⟩
instance : OfDatum LogKind where
  ofDatum datum := do
    let label ← datum.read
    match [LogKind.text, .logcat, .bugreport, .png, .zip, .unknown].find? (·.label = label) with
    | some kind => return kind
    | none => throw ("unknown kind of log " ++ label)

/-- The fields of a stored log. -/
def LogFile.fields (file : LogFile) : List (String × Datum) :=
  [("path", file.path), ("url", file.url), ("is_text", file.isText),
   ("is_compressed", file.isCompressed)]

instance : ToDatum LogFile := ⟨fun file => record file.fields⟩
instance : OfDatum LogFile where
  ofDatum datum := do
    return { path := ← datum.getD "path" "", url := ← datum.getD "url" "",
             isText := ← datum.getD "is_text" true,
             isCompressed := ← datum.getD "is_compressed" false }

/-- The words of an event; the elapsed time of an untimed one is left open. -/
def Event.row (event : Event) (timed : Bool) : List Datum :=
  text event.label ::
    match event with
    | .runStarted run count => [run, count]
    | .testStarted test | .testIgnored test => [test.className, test.testName]
    | .testFailed test trace => [test.className, test.testName, trace]
    | .testEnded test metrics => [test.className, test.testName, metrics]
    | .runFailed message => [message]
    | .runEnded elapsedMs metrics => [if timed then elapsedMs else nothing, metrics]
    | .testLog log kind data => [log, kind, data]
    | .logSaved log kind data file => [log, kind, data, file]

instance : ToDatum Event := ⟨fun event => list (event.row true)⟩
instance : OfDatum Event where
  ofDatum datum := do
    let test : Reading TestDescription :=
      return { className := ← datum.nth 1, testName := ← datum.nth 2 }
    match ← datum.word with
    | "run_started" => return .runStarted (← datum.nth 1) (← datum.nth 2)
    | "test_started" => return .testStarted (← test)
    | "test_failed" => return .testFailed (← test) (← datum.nth 3)
    | "test_ignored" => return .testIgnored (← test)
    | "test_ended" => return .testEnded (← test) (← datum.nth 3)
    | "run_failed" => return .runFailed (← datum.nth 1)
    | "run_ended" => return .runEnded (← datum.nth 1) (← datum.nth 2)
    | "test_log" => return .testLog (← datum.nth 1) (← datum.nth 2) (← datum.nth 3)
    | "log_saved" =>
      return .logSaved (← datum.nth 1) (← datum.nth 2) (← datum.nth 3) (← datum.nth 4)
    | other => throw ("unknown event " ++ other)

/-! ## Results -/

instance : ToDatum TestCase where
  toDatum case := list
    [case.test.className, case.test.testName, case.status.label, case.trace, case.metrics,
     case.interrupted]

/-- The fields of collected results. -/
def RunResult.fields (result : RunResult) : List (String × Datum) :=
  let states : List TestStatus := [.incomplete, .passed, .failed, .ignored]
  [("expected", result.expected), ("num_tests", result.numTests),
   ("complete", result.numComplete), ("by_state", states.map result.numInState),
   ("open", result.hasOpen), ("failed", result.isFailure), ("failure", result.failureMessage),
   ("metrics", result.metrics), ("tests", result.tests)]

instance : ToDatum RunResult := ⟨fun result => record result.fields⟩

/-- The sizes of a pool. -/
def WorkPool.fields (pool : WorkPool) : List (String × Datum) :=
  [("generic", pool.generic.length), ("gated", pool.gated.length),
   ("rejected", pool.rejected.length), ("empty", pool.isEmpty)]

end Fleet
