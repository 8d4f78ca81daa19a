import Fleet.Data.Dict

/-!
# Test events

The events a running unit reports, in the order in which they happen: runs start and end, test
cases start, fail, are ignored and end, and logs are produced or saved.
-/

namespace Fleet

/-- Which test case of a run an event is about. -/
structure TestDescription where
  /-- The class or group of the test. -/
  className : String
  /-- The test inside its class. -/
  testName : String
  deriving DecidableEq, Repr

namespace TestDescription

/-- The class and the test, separated by a hash sign. -/
def text (test : TestDescription) : String :=
  test.className ++ "#" ++ test.testName

/-- Tests are ordered by class, then by name. -/
def before (a b : TestDescription) : Bool :=
  if a.className = b.className then a.testName < b.testName else a.className < b.className

end TestDescription

/-- What kind of data a log holds. -/
inductive LogKind where
  | text
  | logcat
  | bugreport
  | png
  | zip
  | unknown
  deriving DecidableEq, Repr

/-- The printed name of a kind of log. -/
def LogKind.label : LogKind → String
  | text => "txt"
  | logcat => "logcat"
  | bugreport => "bugreport"
  | png => "png"
  | zip => "zip"
  | unknown => "dat"

/-- Where a saved log ended up. -/
structure LogFile where
  /-- The file. -/
  path : String
  /-- An address under which the file can be opened. -/
  url : String
  /-- Whether the file is plain text. -/
  isText : Bool := true
  /-- Whether the file is compressed. -/
  isCompressed : Bool := false
  deriving DecidableEq, Repr

/-- One report of a running unit. -/
inductive Event where
  /-- A run begins and announces how many tests to expect. -/
  | runStarted (run : String) (testCount : Int)
  | testStarted (test : TestDescription)
  | testFailed (test : TestDescription) (trace : String)
  | testIgnored (test : TestDescription)
  | testEnded (test : TestDescription) (metrics : Metrics)
  /-- The current run is broken. -/
  | runFailed (message : String)
  | runEnded (elapsedMs : Int) (metrics : Metrics)
  /-- Raw log data, not stored anywhere yet. -/
  | testLog (log : String) (kind : LogKind) (data : String)
  /-- Log data that has been stored. -/
  | logSaved (log : String) (kind : LogKind) (data : String) (file : LogFile)
  deriving DecidableEq

/-- The printed name of a kind of event. -/
def Event.label : Event → String
  | runStarted .. => "run_started"
  | testStarted _ => "test_started"
  | testFailed .. => "test_failed"
  | testIgnored _ => "test_ignored"
  | testEnded .. => "test_ended"
  | runFailed _ => "run_failed"
  | runEnded .. => "run_ended"
  | testLog .. => "test_log"
  | logSaved .. => "log_saved"

/-- Whether an event is about a log and not about a run or a test. -/
def Event.isLog : Event → Bool
  | testLog .. | logSaved .. => true
  | _ => false

end Fleet
