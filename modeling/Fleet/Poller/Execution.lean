import Fleet.Poller.Basic

/-!
# Running one unit

A poller runs a unit behind a guard that counts the runs the unit leaves open. A unit that wires
collectors itself reports to the poller's own listener, any other to the outermost collector. If
the unit fails, every run it left open is failed and ended for it.
-/

namespace Fleet

namespace Poller

variable {E : Interface}

/-- A poller's network, and the listener a unit on stage reports to. -/
structure Stage where
  network : Network
  /-- The listener in force. -/
  listener : Nat

/-- Answer a request of a unit on stage. Wrapping changes the listener in force. -/
def answerStage : StageRequest → Flow E Stage Unit
  | .send event => do
    let stage ← get
    onNetwork (Network.send stage.listener event)
  | .wrap position context => do
    let stage ← get
    let node := collectorNode position
    match stage.network[node]? with
    | some (.collector ..) =>
      onNetwork (Network.wrap node context stage.listener)
      modify ({ · with listener := node })
    | _ => pure ()
where
  /-- Work on the network of a stage. -/
  onNetwork (flow : Flow E Network Unit) : Flow E Stage Unit :=
    flow.within (·.network) fun stage network => { stage with network }

/-- Play a performance that reports to a listener of the network. -/
def play {α : Type} (listener : Nat) (performance : Performance E (Except Thrown α)) :
    Flow E Network α :=
  ExceptT.mk fun network => do
    let (result, stage) ← (Flow.perform answerStage performance).run.run { network, listener }
    return (result, stage.network)

/-- The error a standard exception thrown by a unit amounts to. -/
def crashError (unit : TestUnit) (serial what : String) : TaskError :=
  { category := .runtime, code := 401, message := what, origin := unit.name,
    details := Dict.empty.insert "serial" serial }

/-- Hand a unit its collectors, if it wires them itself, and run it. A standard exception becomes
an error. -/
def performRun (conduct : Conduct E) (resources : Resources) (guard : Nat) (unit : TestUnit) :
    Flow E Network Outcome := do
  let attempted ← Flow.attempt do
    if unit.capabilities.collectors then
      Flow.resume (← Flow.request (.provide unit (.collectors resources.collectors)))
    play guard (conduct.run (resources.received unit.capabilities))
  match attempted with
  | .ok outcome => return outcome
  | .error (.standard what) => return .error (crashError unit resources.device.serial what)
  | .error .other => throw .other

/-- Fail and end the runs a failed unit left open behind its guard. -/
def closeOpenRuns (guard : Nat) (unit : TestUnit) (serial : String) (error : TaskError) :
    Flow E Network Unit := do
  match (← get)[guard]? with
  | some (.guard openRuns next) =>
    (closingEvents error.message openRuns).forM (Network.send next)
    if openRuns > 0 then
      Flow.log .warn serial "poller" "open_run_closed"
        (unit.name ++ " failed with " ++ toString openRuns
          ++ " run(s) still open; marked them failed")
  | _ => pure ()

/-- Run a unit behind a guard of its own, which is gone afterwards. A collector that still stands in
front of the guard has nothing behind it then, and what becomes of its events is undefined
behaviour. The silent listener in the place of the guard stands for that: it makes the behaviour
definite, but no poller can rely on it. -/
def execute (conduct : Conduct E) (resources : Resources) (entry : Nat) (unit : TestUnit) :
    Flow E Network Outcome := do
  let guard := (← get).length
  let target := if unit.capabilities.collectors then ownListener else entry
  modify (· ++ [.guard 0 target])
  let result ← Flow.attempt do
    let outcome ← performRun conduct resources guard unit
    if let .error error := outcome then
      closeOpenRuns guard unit resources.device.serial error
    return outcome
  modify (·.set guard .silent)
  Flow.resume result

end Poller

end Fleet
