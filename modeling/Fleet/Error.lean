import Fleet.Data.Dict
import Fleet.Data.Fields

/-!
# Task errors

The structured error every unit, preparer and device operation reports, and the two kinds of value
an operation may throw instead of returning. The scheduler branches on the category of an error
and never on its text.
-/

namespace Fleet

/-- What kind of failure an error is. -/
inductive ErrorCategory where
  /-- The connection to the device is lost. -/
  | deviceNotAvailable
  /-- The device hung and was recovered while the unit was still running. -/
  | deviceUnresponsive
  /-- A preparer could not set the device up. -/
  | targetSetup
  /-- Build artifacts are missing or unusable. -/
  | build
  /-- The options of a unit are invalid. -/
  | validation
  /-- The logic of a unit failed. -/
  | runtime
  /-- The configuration of an invocation or a module is inconsistent. -/
  | configuration
  /-- An invariant of the scheduler is violated. -/
  | internal
  /-- Nothing is known about the failure. -/
  | unknown
  deriving DecidableEq, Repr

/-- The printed name of a category. -/
def ErrorCategory.label : ErrorCategory → String
  | deviceNotAvailable => "DeviceNotAvailable"
  | deviceUnresponsive => "DeviceUnresponsive"
  | targetSetup => "TargetSetupError"
  | build => "BuildError"
  | validation => "ValidationError"
  | runtime => "RuntimeError"
  | configuration => "ConfigurationError"
  | internal => "Internal"
  | unknown => "Unknown"

/-- All categories. -/
def ErrorCategory.all : List ErrorCategory :=
  [deviceNotAvailable, deviceUnresponsive, targetSetup, build, validation, runtime,
    configuration, internal, unknown]

/-- The category with a given printed name. -/
def ErrorCategory.ofLabel? (label : String) : Option ErrorCategory :=
  all.find? (·.label == label)

/-- A failure of a unit, a preparer or a device. -/
structure TaskError where
  /-- The kind of failure. -/
  category : ErrorCategory := .unknown
  /-- A number that tells failures of one kind apart. -/
  code : Int := 0
  /-- What happened. -/
  message : String := ""
  /-- The unit or preparer it came from; empty if not known. -/
  origin : String := ""
  /-- Further facts by name. -/
  details : Dict String := .empty
  deriving DecidableEq

namespace TaskError

/-- The details of an error about one device; an empty serial is left out. -/
def serialDetails (serial : String) : Dict String :=
  if serial.isEmpty then .empty else Dict.empty.insert "serial" serial

/-- The device is lost. -/
def deviceNotAvailable (message : String) (serial : String) : TaskError :=
  { category := .deviceNotAvailable, code := 100, message, details := serialDetails serial }

/-- The device hung and came back. -/
def deviceUnresponsive (message : String) (serial : String) : TaskError :=
  { category := .deviceUnresponsive, code := 101, message, details := serialDetails serial }

/-- The device could not be set up. -/
def targetSetup (message : String) : TaskError :=
  { category := .targetSetup, code := 200, message }

/-- The build is unusable. -/
def build (message : String) : TaskError :=
  { category := .build, code := 201, message }

/-- The options are invalid. -/
def validation (message : String) : TaskError :=
  { category := .validation, code := 300, message }

/-- The unit failed. -/
def runtime (message : String) : TaskError :=
  { category := .runtime, code := 400, message }

/-- The configuration is inconsistent. -/
def configuration (message : String) : TaskError :=
  { category := .configuration, code := 500, message }

/-- An invariant is violated. -/
def internal (message : String) : TaskError :=
  { category := .internal, code := 4, message }

/-- Whether the error says that the device is lost. -/
def isDeviceLoss (error : TaskError) : Bool :=
  error.category = .deviceNotAvailable

/-- The error as the trace of a failed test: category, code, origin and message on one line, then
one line for each detail. -/
def describe (error : TaskError) : String :=
  let origin := if error.origin.isEmpty then "" else " in " ++ error.origin
  let head := error.category.label ++ " (code=" ++ toString error.code ++ ")" ++ origin ++ ": "
    ++ error.message
  error.details.entries.foldl (fun text (key, value) => text ++ "\n  " ++ key ++ "=" ++ value) head

end TaskError

/-- What an operation without a result of its own comes to. -/
abbrev Outcome := Except TaskError Unit

/-- The value of a result, or a fallback where the result is an error. -/
def valueOr {α : Type} (result : Except TaskError α) (fallback : α) : α :=
  match result with
  | .ok value => value
  | .error _ => fallback

/-- What an operation may throw instead of returning. -/
inductive Thrown where
  /-- An exception of the standard kind, with its text. -/
  | standard (what : String)
  /-- Anything else; it has no text. -/
  | other
  deriving DecidableEq, Repr

/-- The exception of the standard kind that is thrown with a text: what can be read of it ends
before the first zero character. -/
def Thrown.saying (text : String) : Thrown :=
  .standard (untilZero text)

/-- How a run ends: it returns an outcome or something is thrown out of it. -/
abbrev Exit := Except Thrown Outcome

end Fleet
