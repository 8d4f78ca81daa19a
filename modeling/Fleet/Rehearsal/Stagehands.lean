import Fleet.Rehearsal.Journal
import Fleet.Rehearsal.Script

/-!
# The scripted outside world

`Stagehands` are all scripted collaborators together with the journal. `answerOutside`
answers a question of the scheduler from the scripts and writes down what was asked.
-/

namespace Fleet.Rehearsal

/-- All scripted collaborators, and what happened to them. -/
structure Stagehands where
  /-- Whether there is a logger. -/
  logging : Bool := true
  /-- Whether device events are recorded. -/
  recording : Bool := true
  /-- The devices by serial. -/
  devices : Dict DeviceRole := .empty
  providers : List ProviderScript := []
  savers : List SaverScript := []
  preparers : List PreparerScript := []
  controllers : List (ControllerScript × ModuleController) := []
  collectors : List CollectorScript := []
  checkers : List CheckerScript := []
  recorders : List RecorderScript := []
  /-- The modules by the identity of their unit. -/
  modules : List (Nat × Module) := []
  /-- What happened, the latest first. -/
  journal : List Entry := []

/-- A step of a rehearsal. -/
abbrev Scene (α : Type) := StateM Stagehands α

/-- Write down what happened. -/
def note (entry : Entry) : Scene Unit :=
  modify fun hands => { hands with journal := entry :: hands.journal }

/-- What happened since the last call, oldest first. -/
def takeJournal : Scene (List Entry) :=
  modifyGet fun hands => (hands.journal.reverse, { hands with journal := [] })

/-- Write a log line, if there is a logger. -/
def noteLog (entry : LogEntry) : Scene Unit := do
  if (← get).logging then note (.log entry)

/-- Store a log with a scripted saver. -/
def saveWith (script : SaverScript) (log : String) (kind : LogKind) (data : String) :
    Scene (Except TaskError LogFile) := do
  note (.save log kind data)
  match script.refusals.get? log with
  | some error => return .error error
  | none => return .ok (script.place log kind)

/-! ## Devices -/

/-- A cloud at work, with the saver of its device. -/
abbrev CloudScene (α : Type) := StateT CloudScript (StateM Stagehands) α

/-- Answer a question of a virtual device. -/
def answerCloud (saver : Option SaverScript) :
    (question : CloudRequest) → CloudScene (cloud.Answer question)
  | .start => do
    modify fun script => { script with started := script.started + 1 }
    let script ← get
    note (.cloud (.start script.started))
    let (answer, starts) := script.starts.next
    set { script with starts }
    match answer.getD .plain with
    | .fails error => return .error error
    | .starts name host port status errors =>
      return .ok
        { name := name.getD ("ins-" ++ toString script.started), host, port, status, errors }
  | .shutdown held => do
    note (.cloud (.shutdown held.name))
    let script ← get
    let (answer, shutdowns) := script.shutdowns.next
    set { script with shutdowns }
    return answer.getD (.ok ())
  | .fetchSerialLog held => do
    note (.cloud (.fetchSerialLog held.name))
    let script ← get
    let (answer, serialLogs) := script.serialLogs.next
    set { script with serialLogs }
    return answer.join.getD (.ok ("serial of " ++ held.name))
  | .fetchRemoteFile held path => do
    note (.cloud (.fetchRemoteFile held.name path))
    return ((← get).remoteFiles.get? path).getD (.ok (path ++ "@" ++ held.name))
  | .save log kind data =>
    match saver with
    | some script => saveWith script log kind data
    | none => return .error {}
  | .log entry => noteLog entry

/-- Let a virtual device do something with its scripted cloud. -/
def operate {α : Type} (operation : VirtualDevice.Operation α) (device : VirtualDevice)
    (script : CloudScript) (saver : Option SaverScript) :
    Scene (α × VirtualDevice × CloudScript) := do
  let ((a, device), script) ← ((operation.run device).run (answerCloud saver)).run script
  return (a, device, script)

/-- Replace what is known of a device. -/
def putDevice (serial : String) (role : DeviceRole) : Scene Unit :=
  modify fun hands => { hands with devices := hands.devices.insert serial role }

/-- Let a device do something: a scripted one follows its script, a hosted one its operation. -/
def withDevice {α : Type} (serial : String) (whenBare : α) (scripted : DeviceNote)
    (script : DeviceScript → α × DeviceScript) (hosted : VirtualDevice.Operation α) :
    Scene α := do
  match (← get).devices.get? serial with
  | none | some .bare => return whenBare
  | some (.scripted prepared) =>
    note (.device serial scripted)
    let (answer, prepared) := script prepared
    putDevice serial (.scripted prepared)
    return answer
  | some (.hosted device cloud saver) =>
    let (answer, device, cloud) ← operate hosted device cloud saver
    putDevice serial (.hosted device cloud saver)
    return answer

/-- Wait for a device. -/
def awaitDevice (serial : String) (timeoutMs : Int) : Scene Outcome :=
  withDevice serial (.ok ()) (.await timeoutMs)
    (fun script =>
      let (answer, waits) := script.waits.next
      (answer.getD (.ok ()), { script with waits }))
    VirtualDevice.waitForAvailable

/-- Reboot a device. -/
def rebootDevice (serial : String) : Scene Outcome :=
  withDevice serial (.ok ()) .reboot
    (fun script =>
      let (answer, reboots) := script.reboots.next
      (answer.getD (.ok ()), { script with reboots }))
    VirtualDevice.reboot

/-- Reset the instance behind a device. -/
def resetDevice (serial : String) : Scene Bool :=
  withDevice serial false .reset
    (fun script =>
      let (answer, resets) := script.resets.next
      (answer.getD true, { script with resets }))
    VirtualDevice.reset

/-- Look up a property of a device; this leaves no trace. -/
def deviceProperty (serial key : String) : Scene (Option String) := do
  match (← get).devices.get? serial with
  | none | some .bare => return none
  | some (.scripted script) => return script.properties.get? key
  | some (.hosted device _ _) => return device.property key

/-- Bind a property of a device. -/
def setDeviceProperty (serial key value : String) : Scene Unit := do
  match (← get).devices.get? serial with
  | none | some .bare => pure ()
  | some (.scripted script) =>
    putDevice serial
      (.scripted { script with properties := script.properties.insert key value })
  | some (.hosted device cloud saver) =>
    putDevice serial (.hosted (device.setProperty key value) cloud saver)

/-- Ask a scripted provider. -/
def askProvider (provider : Nat) (device : Device) (token : String) : Scene Bool := do
  let answer ←
    match (← get).providers[provider]? with
    | none => pure false
    | some (.serials serials) => pure (serials.contains device.serial)
    | some (.property provider) =>
      pure (provider.accepts (← deviceProperty device.serial provider.property))
  note (.hasToken device.serial token answer)
  return answer

/-! ## Listeners, collectors and controllers -/

/-- Let a recorder take an event. -/
def recordEvent (outlet : Nat) (event : Event) : Scene (Except Thrown Unit) := do
  let hands ← get
  match hands.recorders[outlet]? with
  | none => return .ok ()
  | some recorder =>
    let timed :=
      match recorder.lastRun with
      | some run => !hands.modules.any fun (_, module) => module.id = run
      | none => true
    note (.event recorder.name event timed)
    if let .runStarted run _ := event then
      modify fun hands =>
        { hands with
          recorders := hands.recorders.set outlet { recorder with lastRun := some run } }
    match recorder.throwOn.get? event.label with
    | some thrown => return .error thrown
    | none => return .ok ()

/-- Let a collector write down what it was asked, and look up its script. -/
def askCollector {α : Type} (collector : Nat) (what : CollectorNote) (otherwise : α)
    (answer : CollectorScript → α) : Scene α := do
  match (← get).collectors[collector]? with
  | none => return otherwise
  | some script =>
    note (.collector script.name what)
    return answer script

/-- Ask a scripted controller. -/
def askController (controller : Nat) (context : Option Context) : Scene RunStrategy := do
  match (← get).controllers[controller]? with
  | none => return .run
  | some (script, _) =>
    let judge (asked : ModuleController) (context : Context) : Scene RunStrategy := do
      let abi := asked.abi?
      note (.controller context.attributes abi)
      match script with
      | .always strategy => return strategy
      | .byBitness strategies =>
        let width :=
          match abi with
          | some abi => abi.bitness
          | none => "none"
        return (strategies.get? width).getD .run
    let (strategy, remembered) ← ModuleController.evaluate judge context
    modify fun hands =>
      { hands with controllers := hands.controllers.set controller (script, remembered) }
    return strategy

/-- Look up how a preparer behaves. -/
def preparerScript (id : Nat) : Scene PreparerScript := do
  return ((← get).preparers[id]?).getD {}

/-- Whether a unit is a module. -/
def isModule (unit : TestUnit) : Scene Bool := do
  return (← get).modules.any fun (id, _) => id = unit.id

/-- Answer a question of the scheduler. -/
def answerOutside : (question : Request) → Scene question.Answer
  | .log entry => noteLog entry
  | .record level event details => do
    if (← get).recording then note (.record level event details)
  | .clock => return 0
  | .send outlet event => recordEvent outlet event
  | .save saver log kind data => do
    saveWith (((← get).savers[saver]?).getD {}) log kind data
  | .await device timeoutMs => awaitDevice device.serial timeoutMs
  | .reboot device => rebootDevice device.serial
  | .reset device => resetDevice device.serial
  | .property device key => deviceProperty device.serial key
  | .holdsToken provider device token => askProvider provider device token
  | .provide unit dependency => do
    unless ← isModule unit do note (.unit unit (.provided dependency))
    return .ok ()
  | .collectorInit collector context =>
    askCollector collector (.init context) (.ok ()) fun script =>
      match script.thrown with
      | some thrown => .error thrown
      | none => .ok ()
  | .collectorRunStart collector context =>
    askCollector collector (.runStart context) .empty (·.runStart)
  | .collectorRunEnd collector metrics =>
    askCollector collector (.runEnd metrics) metrics fun script => metrics.overlay script.runEnd
  | .collectorTestStart collector test =>
    askCollector collector (.testStart test) () fun _ => ()
  | .collectorTestEnd collector test metrics =>
    askCollector collector (.testEnd test metrics) metrics fun script =>
      metrics.overlay script.testEnd
  | .shouldRun controller context => askController controller (some context)
  | .setUp preparer device build => do
    note (.setUp preparer.name device.serial build)
    return (← preparerScript preparer.id).setUp
  | .tearDown preparer device build failure => do
    note (.tearDown preparer.name device.serial build failure)
    return (← preparerScript preparer.id).tearDown
  | .setUpAll preparer context => do
    note (.setUpAll preparer.name context.deviceNames)
    return (← preparerScript preparer.id).setUp
  | .tearDownAll preparer context failure => do
    note (.tearDownAll preparer.name context.deviceNames failure)
    return (← preparerScript preparer.id).tearDown

end Fleet.Rehearsal
