import Fleet.Rehearsal.Cast
import Fleet.Rehearsal.Sheet

/-!
# Casting

Reading all the collaborators of a rehearsal. Each unit, preparer, saver, controller, provider and
recorder gets a number when it is read, and its script is filed under that number; devices are
known by their serials.
-/

namespace Fleet.Rehearsal

open Datum

/-- What has been read so far. -/
structure Casting where
  /-- The number of the next unit. -/
  nextUnit : Nat := 0
  /-- The devices by serial. -/
  devices : List (String × Device) := []
  hands : Stagehands := {}

/-- Reading with a cast. -/
abbrev Audition (α : Type) := StateT Casting Reading α

namespace Audition

/-- File one more script, and return its number. -/
def file {α : Type} (scripts : Stagehands → List α)
    (replace : Stagehands → List α → Stagehands) (script : α) : Audition Nat :=
  modifyGet fun casting =>
    let filed := scripts casting.hands
    (filed.length, { casting with hands := replace casting.hands (filed ++ [script]) })

/-- The device with a serial; one that was never introduced has nothing but the serial. -/
def device (datum : Datum) : Audition (Option Device) := do
  let devices := (← get).devices
  return (← datum.read (α := Option String)).map fun serial =>
    (devices.lookup serial).getD { serial }

/-- A device with its build. -/
def deviceAndBuild (datum : Datum) : Audition (Option Device × Option Build) := do
  return (← device (datum.item 0), ← datum.nth 1)

/-- A saver, if there is one. -/
def saver (datum : Datum) : Audition (Option Nat) := do
  (← datum.read (α := Option SaverScript)).mapM
    (file (·.savers) fun hands savers => { hands with savers })

/-- A controller, if there is one. -/
def controller (datum : Datum) : Audition (Option Nat) := do
  (← datum.read (α := Option ControllerScript)).mapM fun script =>
    file (·.controllers) (fun hands controllers => { hands with controllers }) (script, {})

/-- A recording listener. -/
def recorder (name : String) (throwOn : Datum) : Audition Nat := do
  file (·.recorders) (fun hands recorders => { hands with recorders })
    { name, throwOn := ← throwOn.read }

/-- A metric collector. -/
def collector (datum : Datum) : Audition Nat := do
  file (·.collectors) (fun hands collectors => { hands with collectors }) (← datum.read)

/-- The script of a preparer, of one device or of all. -/
def preparerScript (datum : Datum) : Audition Nat := do
  file (·.preparers) (fun hands preparers => { hands with preparers }) (← datum.read)

/-- A preparer of one device. -/
def preparer (datum : Datum) : Audition Preparer := do
  return { id := ← preparerScript datum, name := ← datum.get "name",
           disabled := ← datum.getD "disabled" false, cleaner := ← datum.getD "cleaner" false }

/-- A preparer of all devices. -/
def multiPreparer (datum : Datum) : Audition MultiPreparer := do
  return { id := ← preparerScript datum, name := ← datum.get "name",
           disabled := ← datum.getD "disabled" false }

/-- The checkers of an invocation. -/
def checkers (datum : Datum) : Audition (List StatusChecker) := do
  (← datum.items?).mapM fun checker => do
    let id ← file (·.checkers) (fun hands checkers => { hands with checkers }) (← checker.read)
    return { id, name := ← checker.get "name" }

/-- The recovery policy, if there is one, and whether there is a registry for its records. -/
def recovery (datum : Datum) : Audition (Option RecoveryPolicy) := do
  let recording ← datum.getD "registry" true
  modify fun casting => { casting with hands := { casting.hands with recording } }
  datum.read

/-- The configuration of a module. -/
def configuration (datum : Datum) : Audition Configuration := do
  return { name := ← datum.getD "name" "module", description := ← datum.getD "description" "",
           moduleName := ← datum.getD "module_name" "",
           abi := (← datum.get (α := Option String) "abi").map Abi.ofName,
           tokens := ← datum.get "tokens",
           controller := ← controller (datum.field "controller") }

/-- Add a device with its name and build to a context. A build that is left out is not filed. -/
def allocate (context : Context) (datum : Datum) : Audition Context := do
  let name ← datum.nth 0
  let context := context.addDevice name (← device (datum.item 1))
  match ← datum.nth (α := Option Build) 2 with
  | none => return context
  | some build => return context.addBuild name (some build)

/-- A provider for a token: the built-in ones, none at all, or a scripted one. -/
def provider (registry : TokenRegistry) (token : Datum) (script : Datum) :
    Audition TokenRegistry := do
  match script with
  | .text _ => return registry.withBuiltins
  | .nothing => return registry.register (← token.readD "") none
  | _ =>
    let id ← file (·.providers) (fun hands providers => { hands with providers }) (← script.read)
    return registry.register (← token.readD "") (some (.external id))

/-- A scripted unit. -/
def scripted (id : Nat) (datum : Datum) : Reading Role := do
  let name ← datum.get "name"
  let unit : TestUnit :=
    { id, name, runnerId := ← datum.getD "runner_id" name, capabilities := ← datum.get "caps",
      tokens := ← datum.get "tokens" }
  return .scripted unit (← datum.read)

/-- A module whose units have been read. -/
def assemble (id : Nat) (name : String) (parts : List Role) (datum : Datum) : Audition Role := do
  let preparers ← (← (datum.field "preparers").items?).mapM fun entry => do
    return (← entry.nth 0, ← (← (entry.item 1).items?).mapM preparer)
  let multi ← (← (datum.field "multi").items?).mapM multiPreparer
  let config ← (← datum.get (α := Option Datum) "config").mapM configuration
  let module := Module.create name (parts.map (·.unit)) preparers multi config
  let context ← (← (datum.field "context_devices").items?).foldlM allocate module.context
  let module :=
    { module with
      context, allowlist := ← datum.get "allow", saver := ← saver (datum.field "saver"),
      device := ← device (datum.field "device"), build := ← datum.get "build" }
  modify fun casting =>
    { casting with
      hands := { casting.hands with modules := casting.hands.modules ++ [(id, module)] } }
  let unit : TestUnit :=
    { id, name, runnerId := name, capabilities := Module.capabilities, tokens := module.tokens }
  return .module unit parts

/-- The number of the next unit. -/
def nextUnit : Audition Nat :=
  modifyGet fun casting => (casting.nextUnit, { casting with nextUnit := casting.nextUnit + 1 })

mutual

/-- The role of a unit: a module if it names one, else a scripted unit. -/
def role : Datum → Audition Role
  | .record fields => do
    let id ← nextUnit
    match fields.lookup "module" with
    | none | some .nothing => scripted id (.record fields)
    | some name => do assemble id (← name.read) (← partsOf fields) (.record fields)
  | _ => throw "unit expected"

/-- The roles of the units of a module, from its fields. -/
def partsOf : List (String × Datum) → Audition (List Role)
  | [] => return []
  | ("tests", .list units) :: _ => roles units
  | _ :: rest => partsOf rest

/-- The roles of several units. -/
def roles : List Datum → Audition (List Role)
  | [] => return []
  | unit :: rest => do return (← role unit) :: (← roles rest)

end

/-- The roles of several units, some of which may be missing. -/
def optionalRoles (datum : Datum) : Audition (List (Option Role)) := do
  (← datum.items?).mapM fun unit => do
    match unit with
    | .nothing => return none
    | unit => return some (← role unit)

/-- The devices and token providers of a rehearsal, and whether there is a logger. -/
def surroundings (datum : Datum) : Audition (Option TokenRegistry) := do
  let logging ← datum.getD "logger" true
  modify fun casting => { casting with hands := { casting.hands with logging } }
  for entry in ← (datum.field "devices").items? do
    let (device, role) : Device × DeviceRole ← entry.read
    modify fun casting =>
      { casting with
        devices := casting.devices ++ [(device.serial, device)],
        hands :=
          { casting.hands with devices := casting.hands.devices.insert device.serial role } }
  let registry ← (← (datum.field "providers").items?).foldlM
    (fun registry entry => provider registry (entry.item 0) (entry.item 1)) {}
  if ← datum.getD "token_registry" true then return some registry else return none

end Audition

end Fleet.Rehearsal
