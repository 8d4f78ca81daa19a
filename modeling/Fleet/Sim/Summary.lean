import Fleet.Event

/-!
# Summaries

Counts runs and test verdicts and prints a line when a run fails or ends. The verdict flags are
set by the events of a test and cleared when a test ends.
-/

namespace Fleet.Sim

/-- The counts so far. -/
structure Summary where
  /-- The run that started last. -/
  run : String := ""
  passed : Nat := 0
  failed : Nat := 0
  ignored : Nat := 0
  /-- How many runs have ended. -/
  runs : Nat := 0
  /-- How many of them failed. -/
  failedRuns : Nat := 0
  /-- Whether the current run failed. -/
  runFailed : Bool := false
  /-- Whether the current test failed. -/
  testFailed : Bool := false
  /-- Whether the current test was ignored. -/
  testIgnored : Bool := false
  deriving DecidableEq, Repr

namespace Summary

/-- Count the verdict of a test that ends. -/
def countTest (summary : Summary) : Summary :=
  let counted :=
    if summary.testFailed then { summary with failed := summary.failed + 1 }
    else if summary.testIgnored then { summary with ignored := summary.ignored + 1 }
    else { summary with passed := summary.passed + 1 }
  { counted with testFailed := false, testIgnored := false }

/-- Count a run that ends. -/
def countRun (summary : Summary) : Summary :=
  { summary with
    runs := summary.runs + 1
    failedRuns := summary.failedRuns + if summary.runFailed then 1 else 0 }

/-- The counts after an event. -/
def after (summary : Summary) : Event → Summary
  | .runStarted run _ => { summary with run, runFailed := false }
  | .testFailed .. => { summary with testFailed := true }
  | .testIgnored _ => { summary with testIgnored := true }
  | .testEnded .. => summary.countTest
  | .runFailed _ => { summary with runFailed := true }
  | .runEnded .. => summary.countRun
  | .testStarted _ | .testLog .. | .logSaved .. => summary

/-- What is printed on an event. -/
def line (summary : Summary) : Event → String
  | .runFailed message => "  " ++ summary.run ++ ": run failed: " ++ message ++ "\n"
  | .runEnded elapsedMs _ =>
    "  " ++ summary.run ++ " finished in " ++ toString elapsedMs ++ "ms\n"
  | _ => ""

/-- The line with all counts. -/
def totals (summary : Summary) : String :=
  "runs=" ++ toString summary.runs ++ " failed_runs=" ++ toString summary.failedRuns
    ++ " passed=" ++ toString summary.passed ++ " failed=" ++ toString summary.failed
    ++ " ignored=" ++ toString summary.ignored ++ "\n"

end Summary

end Fleet.Sim
