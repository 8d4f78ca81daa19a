import Fleet.Files.LogStore
import Fleet.Invocation
import Fleet.Sim.Devices
import Fleet.Sim.Summary
import Fleet.Sim.Units

/-!
# Simulations

The outside world of a simulated fleet. Devices are always there, cannot be reset and can be made
to drop; every event ends in the summary; logs are kept in a folder; everything else succeeds.
-/

namespace Fleet.Sim

/-- A simulation under way. -/
structure Simulation where
  devices : List SimDevice
  summary : Summary := {}
  /-- The module that runs along with the units. -/
  module : Module
  store : LogStore

namespace Simulation

/-- A step of a simulation. -/
abbrev Step (α : Type) := StateT Simulation Hosted α

/-- Look up a device. -/
def find (simulation : Simulation) (device : Device) : Option SimDevice :=
  simulation.devices.find? (·.serial = device.serial)

/-- Let the summary take an event. -/
def summarize (event : Event) : Step Unit := do
  let simulation ← get
  let line := simulation.summary.line event
  unless line.isEmpty do
    discard <| liftM (Host.ask (.print line))
  set { simulation with summary := simulation.summary.after event }

/-- Keep a log. -/
def keepLog (log : String) (kind : LogKind) (data : String) :
    Step (Except TaskError LogFile) := do
  let (result, store) ← liftM ((← get).store.save log kind data)
  modify ({ · with store })
  return result

/-- Answer a question of the scheduler. -/
def answerOutside : (question : Request) → Step question.Answer
  | .log entry => liftM (Host.ask (.log entry))
  | .clock => liftM (Host.ask .clock)
  | .send _ event => do
    summarize event
    return .ok ()
  | .save _ log kind data => keepLog log kind data
  | .property device key => do
    return ((← get).find device).bind (·.properties.get? key)
  | .await .. | .reboot _ => return .ok ()
  | .reset _ | .holdsToken .. => return false
  | .provide .. | .collectorInit .. => return .ok ()
  | .collectorRunStart .. => return .empty
  | .collectorRunEnd _ metrics | .collectorTestEnd _ _ metrics => return metrics
  | .shouldRun .. => return .run
  | .setUp .. | .tearDown .. | .setUpAll .. | .tearDownAll .. => return .ok (.ok ())
  | .record .. | .collectorTestStart .. => return ()

/-- Run an errand of a unit. -/
def runErrand : (errand : Errand) → Step (errands.Answer errand)
  | .takeDrop device => do
    let simulation ← get
    let drops := (simulation.find device).any (·.dropping)
    let devices := simulation.devices.map fun sim =>
      if sim.serial = device.serial then { sim with dropping := false } else sim
    set { simulation with devices }
    return drops
  | .kept => return (← get).module
  | .keep module => modify ({ · with module })

/-- Answer any question asked in a simulation. -/
def answer : (question : (World Backstage).Question) → Step ((World Backstage).Answer question)
  | .inl question | .inr (.inl question) => answerOutside question
  | .inr (.inr errand) => runErrand errand

/-- Hold a conversation with a simulation. -/
def play {α : Type} (session : Work Backstage α) : Step α :=
  session.run answer

/-- Let a unit perform without a poller; the events it reports are collected, oldest first. -/
def performAlone {α : Type} (performance : Performance Backstage α) : StateT (List Event) Step α :=
  performance.run answerStage
where
  /-- Answer a request of the unit, or run its errand. -/
  answerStage : (question : (stage.sum Backstage).Question) →
      StateT (List Event) Step ((stage.sum Backstage).Answer question)
    | .inl (.send event) => fun events => return (.ok (), events ++ [event])
    | .inl (.wrap ..) => return .ok ()
    | .inr (.inl question) => liftM (answerOutside question)
    | .inr (.inr errand) => liftM (runErrand errand)

/-- Let the device with a serial drop when a unit next looks. -/
def dropOnce (serial : String) (simulation : Simulation) : Simulation :=
  { simulation with
    devices := simulation.devices.map fun sim =>
      if sim.serial = serial then { sim with dropping := true } else sim }

end Simulation

/-! ## What is simulated -/

/-- The context of a simulated invocation. -/
def context (devices : List SimDevice) : Context :=
  devices.foldl (fun context sim =>
    (context.addDevice sim.serial (some sim.device)).addBuild sim.serial
      (some { id := "sim-build" })) { invocationId := "sim-invocation" }

/-- The units of the simulated module. -/
def moduleParts : List SimUnit :=
  [{ name := "sim-module-a", testCount := 2 },
   { name := "sim-module-b", testCount := 2, failingTest := 0 }]

/-- What the scheduler sees of some units, numbered from a start. -/
def numberedUnits (units : List SimUnit) (start : Nat) : List TestUnit :=
  (units.zipIdx start).map fun (sim, id) => sim.unit id

/-- The simulated module. -/
def module (allowlist : Names) : Module :=
  let config : Configuration :=
    { name := "sim-module", description := "simulated module", moduleName := "sim-module",
      abi := some (.ofName "arm64-v8a") }
  let setup : Preparer := { id := 0, name := "sim-setup" }
  { Module.create "arm64-v8a sim-module" (numberedUnits moduleParts 0)
      [(defaultDeviceName, [setup])] [] (some config) with
    allowlist, saver := some 0 }

/-- What the scheduler sees of the simulated module. -/
def moduleUnit (module : Module) (id : Nat) : TestUnit where
  id
  name := module.id
  runnerId := module.id
  capabilities := Module.capabilities
  tokens := module.tokens

/-- The conduct of numbered units. -/
def conducts (units : List SimUnit) : Conducts Backstage := fun unit =>
  match units[unit.id]? with
  | some sim => sim.conduct
  | none => .idle

/-- The conduct of numbered units with the module as the last one. -/
def conductsWithModule (units : List SimUnit) (module : Module) : Conducts Backstage := fun unit =>
  if unit.id = units.length then
    Module.conduct module.id (conducts moduleParts) (own .kept) fun module => own (.keep module)
  else conducts units unit

/-- How a simulated fleet is scheduled. -/
def plan (rank : TestUnit → Nat) (recoveryWaitMs : Int) : InvocationPlan where
  rank
  registry := some (({} : TokenRegistry).withBuiltins)
  recovery := some { waitTimeoutMs := recoveryWaitMs }
  configuration := some { name := "sim", description := "simulated fleet" }

end Fleet.Sim
