import Fleet.Listener.Front
import Fleet.Settings.Load
import Fleet.Sim.Simulation

/-!
# The simulator program

Reads the settings, runs simulated units and a simulated module on simulated devices, of which the
last one drops once, and prints what every device came to and the totals.
-/

namespace Fleet.Sim

/-- How the program ends. -/
inductive Ending where
  /-- With an exit code. -/
  | finished (code : Nat)
  /-- Without having started. -/
  | notStarted (reason : Settings.NoTemporaryFolder)
  /-- With something thrown out of the invocation. -/
  | escaped (thrown : Thrown)
  deriving DecidableEq, Repr

/-- The line about one device. -/
def statsLine (serial : String) (stats : ShardStats) : String :=
  serial ++ ": withdrawn=" ++ toString stats.withdrawn ++ " dropped=" ++ toString stats.dropped
    ++ " terminated_early=" ++ (if stats.terminatedEarly then "yes" else "no")
    ++ (if stats.reportedNotExecuted then " (reported not executed)" else "") ++ "\n"

/-- The simulation a program starts with. -/
def start (settings : Settings) : Simulation where
  devices := withDrop (devices settings.simDevices)
  module := module settings.allowlist
  store := { folder := settings.logPath }

/-- The invocation of the program: the units of the simulation and its module, which report
through a listener that keeps their logs. -/
def invoke (rank : TestUnit → Nat) (settings : Settings) :
    Work Backstage (Exit × Option Invocation) := do
  let units := units settings.simUnits
  let module := module settings.allowlist
  let pooled := numberedUnits units 0 ++ [moduleUnit module units.length]
  let session := (plan rank settings.recoveryWaitMs).run (conductsWithModule units module)
    (some (context (devices settings.simDevices))) true (pooled.map some)
  let ((exit, invocation), _) ← (Network.front session).run [.savingFan (some 0) [1], .outlet 0]
  return (exit, invocation)

/-- Print the statistics and the totals, and say how the program ends. -/
def report (exit : Exit) (invocation : Option Invocation) (summary : Summary) : Hosted Ending := do
  match exit with
  | .error thrown => return .escaped thrown
  | .ok outcome =>
    let stats := (invocation.map (·.stats)).getD .empty
    stats.entries.forM fun (serial, stats) => Host.ask (.print (statsLine serial stats))
    discard <| Host.ask (.print summary.totals)
    match outcome with
    | .ok () => return .finished 0
    | .error error =>
      Host.log .error "sim-invocation" "app" "invocation_failed" error.describe
      return .finished 1

/-- The program. The ranks say in which order its pool gives out units. -/
def program (rank : TestUnit → Nat) (environment : Environment) : Hosted Ending := do
  match ← Settings.load environment with
  | .error reason => return .notStarted reason
  | .ok settings =>
    let ((exit, invocation), simulation) ←
      (Simulation.play (invoke rank settings)).run (start settings)
    report exit invocation simulation.summary

end Fleet.Sim
