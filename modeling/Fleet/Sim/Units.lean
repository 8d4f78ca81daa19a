import Fleet.Module.Performance
import Fleet.Token

/-!
# Simulated units

Units that run a fixed number of test cases, of which at most one fails. Before each verdict the
device is looked at: if it drops, the unit fails and leaves its run open.
-/

namespace Fleet.Sim

/-- What simulated units do besides reporting. -/
inductive Errand where
  /-- Look whether a device drops; it drops only once. -/
  | takeDrop (device : Device)
  /-- Look up the module of the simulation. -/
  | kept
  /-- Keep what became of the module. -/
  | keep (module : Module)

/-- The errands with their answers. -/
@[reducible] def errands : Interface where
  Question := Errand
  Answer
    | .takeDrop _ => Bool
    | .kept => Module
    | .keep _ => Unit

/-- The world of simulated units. -/
abbrev Backstage : Interface := World errands

/-- Run an errand of a unit's own. -/
def own (errand : Errand) : Performance Backstage (errands.Answer errand) :=
  Performance.errand (E := Backstage) (.inr errand)

/-- What a simulated unit does on stage, up to a listener that throws. -/
abbrev Act := ExceptT Thrown (Session (stage.sum Backstage))

/-- Report an event. -/
def say (event : Event) : Act Unit :=
  ExceptT.mk (Performance.send event)

/-- A simulated unit. -/
structure SimUnit where
  name : String
  /-- How many tests it runs; a negative number runs none. -/
  testCount : Int
  tokens : Names := .empty
  /-- The number of the test that fails, if there is a test with this number. -/
  failingTest : Int := -1
  deriving DecidableEq

namespace SimUnit

/-- What the scheduler sees of the unit. -/
def unit (sim : SimUnit) (id : Nat) : TestUnit where
  id
  name := sim.name
  runnerId := sim.name
  capabilities := { device := true, notExecutedReport := true }
  tokens := sim.tokens

/-- The test with a number. -/
def test (sim : SimUnit) (number : Nat) : TestDescription :=
  { className := sim.name, testName := "test" ++ toString number }

/-- The error of a unit whose device drops. -/
def dropError (test : TestDescription) (device : Device) : TaskError :=
  .deviceNotAvailable ("Simulated disconnect during " ++ test.text) device.serial

/-- Look whether the device drops during a test. -/
def lookForDrop (device : Option Device) (test : TestDescription) : Act (Option TaskError) := do
  match device with
  | none => return none
  | some device =>
    if ← own (.takeDrop device) then return some (dropError test device) else return none

/-- Run the tests with the given numbers. -/
def runTests (sim : SimUnit) (device : Option Device) : List Nat → Act Outcome
  | [] => return .ok ()
  | number :: rest => do
    let test := sim.test number
    say (.testStarted test)
    match ← lookForDrop device test with
    | some error => return .error error
    | none =>
      if (number : Int) = sim.failingTest then
        say (.testFailed test "simulated assertion failure")
      say (.testEnded test .empty)
      sim.runTests device rest

/-- Run the unit on a device, if it has one. -/
def run (sim : SimUnit) (device : Option Device) : Act Outcome := do
  say (.runStarted sim.name sim.testCount)
  match ← sim.runTests device (List.range sim.testCount.toNat) with
  | .error error => return .error error
  | .ok () =>
    say (.runEnded (5 * sim.testCount) .empty)
    return .ok ()

/-- The events by which a unit reports that it did not run. -/
def notExecutedEvents (sim : SimUnit) (message : String) : List Event :=
  [.runStarted sim.name 0,
   .runFailed (if message.isEmpty then sim.name ++ " did not run." else message),
   .runEnded 0 .empty]

/-- The device a unit received. -/
def received (dependencies : List Dependency) : Option Device :=
  dependencies.findSome? fun
    | .device device => device
    | _ => none

/-- The conduct of the unit. -/
def conduct (sim : SimUnit) : Conduct Backstage where
  options := .ok []
  run dependencies := (sim.run (received dependencies)).run
  reportNotExecuted message := Performance.sendAll (sim.notExecutedEvents message)

/-- The unit with a number. Every fifth needs a token no device holds, of the others every fourth
needs a SIM card, and of every three units one has a failing test. -/
def numbered (number : Nat) : SimUnit where
  name := "unit-" ++ toString number
  testCount := 3
  tokens :=
    if number % 5 = 4 then .ofList ["nfc"]
    else if number % 4 = 3 then .ofList [simCardToken]
    else .empty
  failingTest := if number % 3 = 2 then 1 else -1

end SimUnit

/-- A number of units; a negative number stands for none. -/
def units (count : Int) : List SimUnit :=
  (List.range count.toNat).map .numbered

end Fleet.Sim
