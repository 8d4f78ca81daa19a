import Fleet.Event

/-!
# Aggregated test results

The results of one module run, collected case by case from the events of its units and replayed as
one run when the module is done. A case that is started again is a new case; an event about a test
concerns the open case if it is that test, else the latest case of that test, and a test nobody
started gets a case of its own.
-/

namespace Fleet

/-- What is known about a test case. -/
inductive TestStatus where
  | incomplete
  | passed
  | failed
  | ignored
  deriving DecidableEq, Repr

/-- The printed name of a status. -/
def TestStatus.label : TestStatus → String
  | incomplete => "INCOMPLETE"
  | passed => "PASSED"
  | failed => "FAILURE"
  | ignored => "IGNORED"

/-- One recorded test case. -/
structure TestCase where
  test : TestDescription
  status : TestStatus := .incomplete
  trace : String := ""
  metrics : Metrics := .empty
  /-- Whether the case was closed for its unit, after the unit failed in the middle of it. -/
  interrupted : Bool := false
  deriving DecidableEq

/-- The results collected so far. -/
structure RunResult where
  /-- The sum of the announced test counts. -/
  expected : Nat := 0
  /-- The cases in the order in which they came up. -/
  tests : List TestCase := []
  /-- The position of the case that was started last, until it ends. -/
  openCase : Option Nat := none
  /-- The messages of failed runs, oldest first. -/
  failures : List String := []
  /-- The metrics of ended runs; the earliest binding of a key is kept. -/
  metrics : Metrics := .empty
  deriving DecidableEq

namespace RunResult

/-- The position of the latest case of a test. -/
def latest (tests : List TestCase) (test : TestDescription) : Option Nat :=
  (tests.reverse.findIdx? (·.test = test)).map (tests.length - 1 - ·)

/-- Whether the open case is one of this test. -/
def isOpen (result : RunResult) (test : TestDescription) : Bool :=
  match result.openCase with
  | some index => (result.tests[index]?).any (·.test = test)
  | none => false

/-- The position of the case an event about a test concerns, if there is one. -/
def locate (result : RunResult) (test : TestDescription) : Option Nat :=
  if result.isOpen test then result.openCase else latest result.tests test

/-- Change the case an event about a test concerns, adding a case if there is none. -/
def update (result : RunResult) (test : TestDescription) (f : TestCase → TestCase) : RunResult :=
  match result.locate test with
  | some index => { result with tests := result.tests.modify index f }
  | none => { result with tests := result.tests ++ [f { test }] }

/-- Announce further tests; a negative count announces none. -/
def addExpected (result : RunResult) (count : Int) : RunResult :=
  { result with expected := result.expected + count.toNat }

/-- A test starts: a new case, which is now the open one. -/
def testStarted (result : RunResult) (test : TestDescription) : RunResult :=
  { result with tests := result.tests ++ [{ test }], openCase := some result.tests.length }

/-- A test fails. -/
def testFailed (result : RunResult) (test : TestDescription) (trace : String) : RunResult :=
  result.update test ({ · with status := .failed, trace })

/-- The status of a case that is to be ignored: a failure stays one. -/
def ignoredStatus : TestStatus → TestStatus
  | .failed => .failed
  | _ => .ignored

/-- A test is ignored. -/
def testIgnored (result : RunResult) (test : TestDescription) : RunResult :=
  result.update test fun case => { case with status := ignoredStatus case.status }

/-- A test ends: it passed unless something else is known. Metrics recorded earlier are kept. -/
def testEnded (result : RunResult) (test : TestDescription) (metrics : Metrics) : RunResult :=
  let closes := result.isOpen test
  let result := result.update test fun case =>
    { case with
      status := if case.status = .incomplete then .passed else case.status
      metrics := case.metrics.union metrics }
  if closes then { result with openCase := none } else result

/-- A run failed. -/
def runFailed (result : RunResult) (message : String) : RunResult :=
  { result with failures := result.failures ++ [message] }

/-- Add the metrics of an ended run. -/
def addMetrics (result : RunResult) (metrics : Metrics) : RunResult :=
  { result with metrics := result.metrics.union metrics }

/-- Change the open case, if there is one, and close it. -/
def closeOpen (result : RunResult) (f : TestCase → TestCase) : RunResult :=
  match result.openCase with
  | none => result
  | some index => { result with tests := result.tests.modify index f, openCase := none }

/-- Close the open case as failed and interrupted. -/
def failOpen (result : RunResult) (trace : String) : RunResult :=
  result.closeOpen ({ · with status := .failed, trace, interrupted := true })

/-- Close the open case as ignored. -/
def ignoreOpen (result : RunResult) : RunResult :=
  result.closeOpen fun case => { case with status := ignoredStatus case.status }

/-- Whether a case is open. -/
def hasOpen (result : RunResult) : Bool :=
  result.openCase.isSome

/-- How many cases there are. -/
def numTests (result : RunResult) : Nat :=
  result.tests.length

/-- How many cases were completed by their own unit. -/
def numComplete (result : RunResult) : Nat :=
  result.tests.countP fun case => case.status ≠ .incomplete && !case.interrupted

/-- How many cases have a status. -/
def numInState (result : RunResult) (status : TestStatus) : Nat :=
  result.tests.countP (·.status = status)

/-- Whether some run failed. -/
def isFailure (result : RunResult) : Bool :=
  !result.failures.isEmpty

/-- Append a message to a text on a line of its own; an empty text has no line yet. -/
def joinLines (text message : String) : String :=
  if text.isEmpty then message else text ++ "\n" ++ message

/-- The messages of all failed runs, one after the other. -/
def failureMessage (result : RunResult) : String :=
  result.failures.foldl joinLines ""

/-- The events that tell of one case. -/
def caseEvents (case : TestCase) : List Event :=
  let verdict : List Event :=
    match case.status with
    | .failed => [.testFailed case.test case.trace]
    | .ignored => [.testIgnored case.test]
    | .incomplete | .passed => []
  .testStarted case.test :: verdict ++ [.testEnded case.test case.metrics]

/-- The results as the events of one run. -/
def replay (result : RunResult) (run : String) (elapsedMs : Int) : List Event :=
  .runStarted run (max result.expected result.numTests)
    :: result.tests.flatMap caseEvents
    ++ (if result.isFailure then [.runFailed result.failureMessage] else [])
    ++ [.runEnded elapsedMs result.metrics]

end RunResult

end Fleet
