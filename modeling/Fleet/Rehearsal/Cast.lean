import Fleet.Invocation
import Fleet.Module.Performance
import Fleet.Rehearsal.Stagehands

/-!
# The cast

The conduct of every unit of a rehearsal, from its script or from the module it is, and the plays
the cast is used in: any conversation of the scheduler, one poller, or one module.
-/

namespace Fleet.Rehearsal

/-- What units of a rehearsal do on their own. -/
inductive Errand where
  /-- Write something down. -/
  | note (entry : Entry)
  | setProperty (serial key value : String)
  /-- Have a checker look at a device before and after. -/
  | check (checker : StatusChecker) (device : Device)
  /-- Look up the module a unit is. -/
  | kept (unit : TestUnit)
  /-- Keep what became of a module. -/
  | keep (unit : TestUnit) (module : Module)

/-- The errands with their answers. -/
@[reducible] def errands : Interface where
  Question := Errand
  Answer
    | .note _ | .setProperty .. | .keep .. => Unit
    | .check .. => Outcome × Outcome
    | .kept _ => Module

/-- The world of the units of a rehearsal: modules among them reach the outside too. -/
abbrev Backstage : Interface := World errands

/-- Run an errand of a unit's own. -/
def own (errand : Errand) : Performance Backstage (errands.Answer errand) :=
  Performance.errand (E := Backstage) (.inr errand)

/-! ## Scripted units -/

/-- The device a unit received. -/
def receivedDevice (received : List Dependency) : Option Device :=
  received.findSome? fun
    | .device device => device
    | _ => none

/-- The context a unit received. -/
def receivedContext (received : List Dependency) : Option Context :=
  received.findSome? fun
    | .context context => context
    | _ => none

/-- How many collectors a unit received. -/
def receivedCollectors (received : List Dependency) : Nat :=
  (received.flatMap fun
    | .collectors collectors => collectors
    | _ => []).length

/-- The checkers a unit received. -/
def receivedCheckers (received : List Dependency) : List StatusChecker :=
  received.flatMap fun
    | .statusCheckers checkers => checkers
    | _ => []

/-- Put each received collector around the listener in force, up to one that throws. -/
def wrapAll (context : Option Context) : List Nat → Performance Backstage (Except Thrown Unit)
  | [] => return .ok ()
  | position :: rest => do
    match ← Performance.wrap position context with
    | .ok () => wrapAll context rest
    | .error thrown => return .error thrown

/-- Have each received checker look at a device. -/
def checkAll (unit : TestUnit) (device : Device) :
    List StatusChecker → Performance Backstage Unit
  | [] => return ()
  | checker :: rest => do
    let (before, after) ← own (.check checker device)
    own (.note (.unit unit (.checked before after)))
    checkAll unit device rest

/-- Go through the body of a unit. What the listener throws is thrown on. -/
def playBody (unit : TestUnit) (received : List Dependency) :
    List Action → Performance Backstage Exit
  | [] => return .ok (.ok ())
  | .send event :: rest => do
    match ← Performance.send event with
    | .ok () => playBody unit received rest
    | .error thrown => return .error thrown
  | .fail error :: _ => return .ok (.error error)
  | .throw thrown :: _ => return .error thrown
  | .setProperty serial key value :: rest => do
    own (.setProperty serial key value)
    playBody unit received rest
  | .wrap :: rest => do
    match ← wrapAll (receivedContext received) (List.range (receivedCollectors received)) with
    | .ok () => playBody unit received rest
    | .error thrown => return .error thrown
  | .check :: rest => do
    if let some device := receivedDevice received then
      checkAll unit device (receivedCheckers received)
    playBody unit received rest

/-- What a unit without a body does: one run with one test that passes. -/
def defaultBody (name : String) : List Action :=
  let test : TestDescription := { className := name, testName := "test" }
  [.send (.runStarted name 1), .send (.testStarted test), .send (.testEnded test .empty),
   .send (.runEnded 0 .empty)]

/-- The conduct of a scripted unit. -/
def scriptedConduct (unit : TestUnit) (script : UnitScript) : Conduct Backstage where
  options := script.options
  run received := do
    own (.note (.unit unit (.ran (receivedDevice received))))
    playBody unit received (script.body.getD (defaultBody unit.name))
  reportNotExecuted message := do
    own (.note (.unit unit (.notExecuted message)))
    match script.report with
    | .nothing => return .ok ()
    | .throws thrown => return .error thrown
    | .events =>
      let reason := if message.isEmpty then unit.name ++ " did not run" else message
      Performance.sendAll [.runStarted unit.name 0, .runFailed reason, .runEnded 0 .empty]

/-! ## Modules -/

/-- The conduct of a module, which is kept in the wings between its runs. -/
def moduleConduct (unit : TestUnit) (parts : Conducts Backstage) : Conduct Backstage :=
  Module.conduct unit.name parts (own (.kept unit)) fun module => own (.keep unit module)

mutual

/-- The conduct of the unit a role is for. -/
def Role.conduct : Role → Conduct Backstage
  | .scripted unit script => scriptedConduct unit script
  | .module unit parts => moduleConduct unit (conductOf parts)

/-- The conduct of each unit of a cast. -/
def conductOf : List Role → Conducts Backstage
  | [], _ => .idle
  | role :: rest, unit => if role.unit.id = unit.id then role.conduct else conductOf rest unit

end

/-! ## Plays -/

/-- Run an errand. -/
def runErrand : (errand : Errand) → Scene (errands.Answer errand)
  | .note entry => note entry
  | .setProperty serial key value => setDeviceProperty serial key value
  | .check checker device => do
    let script := ((← get).checkers[checker.id]?).getD {}
    note (.checker checker.name true device.serial)
    note (.checker checker.name false device.serial)
    return (script.before, script.after)
  | .kept unit => do
    return ((← get).modules.lookup unit.id).getD (.create unit.name [] [] [] none)
  | .keep unit module =>
    modify fun hands =>
      { hands with
        modules := hands.modules.map fun (id, old) => (id, if id = unit.id then module else old) }

/-- Answer any question asked in a rehearsal. -/
def answer : (question : (World Backstage).Question) →
    Scene ((World Backstage).Answer question)
  | .inl question | .inr (.inl question) => answerOutside question
  | .inr (.inr errand) => runErrand errand

/-- Hold a conversation with the scripted collaborators. -/
def play {α : Type} (session : Work Backstage α) : Scene α :=
  session.run answer

/-- Run a poller until it leaves; one that has left runs once more. With `sharded`, its events go
through a shard buffer, and the result tells what is left in it. -/
def playPoller (conducts : Conducts Backstage) (sharded : Bool) (poller : Poller)
    (floor : Floor) : Scene (Station × List Event) := do
  let poller := if poller.exit?.isSome then poller.again else poller
  let run : Work Backstage Station := Station.run conducts { poller, floor }
  if sharded then
    let (station, buffer) ← play ((Seat.relay run).run {})
    return (station, buffer.flush.1)
  else return (← play run, [])

/-- Run a module on the recorder behind the outlet 0. -/
def playModule (parts : List Role) (module : Module) : Scene (Exit × Module) :=
  play ((Module.run (conductOf parts)).run.run module)

end Fleet.Rehearsal
