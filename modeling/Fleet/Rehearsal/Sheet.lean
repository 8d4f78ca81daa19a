import Fleet.Datum.Values
import Fleet.Rehearsal.Script

/-!
# Scripts from data

How the script of each collaborator is read. What is left out behaves in the plainest way: answers
are favourable, nothing is required and nothing is thrown.
-/

namespace Fleet.Rehearsal

open Datum

/-! ## Answers -/

/-- Prepared answers: a list of them, or one for every question. -/
def readCue {α : Type} (answer : Datum → Reading α) (datum : Datum) : Reading (Cue α) := do
  match datum with
  | .nothing => return {}
  | .list answers => return { answers := ← answers.mapM answer }
  | single => return { answers := [← answer single] }

instance {α : Type} [OfDatum α] : OfDatum (Cue α) := ⟨readCue Datum.read⟩

/-- How an attempt ends: well, in the usual failure, or with an error of its own. -/
def readAttempt (failure : TaskError) : Datum → Reading Outcome
  | .nothing | .flag true => return .ok ()
  | .flag false => return .error failure
  | datum => return .error (← datum.read)

/-- A text, or the error that comes instead. -/
instance : OfDatum (Except TaskError String) where
  ofDatum
    | .text value => return .ok value
    | datum => return .error (← datum.read)

/-- How a reaction ends: well, with an error, or by throwing. -/
instance : OfDatum Exit where
  ofDatum
    | .nothing => return .ok (.ok ())
    | .list items => return .ok (.error (← (list items).read))
    | datum => do
      match (← datum.fields?).lookup "throw" with
      | some thrown => return .error (← thrown.read)
      | none => return .ok (.error (← datum.read))

/-! ## Devices -/

instance : OfDatum SaverScript where
  ofDatum datum := do
    return { pathStart := ← datum.getD "prefix" "/logs/", refusals := ← datum.get "fail" }

instance : OfDatum InstanceStatus where
  ofDatum datum := do
    let label ← datum.read
    match [InstanceStatus.success, .fail, .bootFail, .deviceOffline].find? (·.label = label) with
    | some status => return status
    | none => throw ("unknown instance status " ++ label)

instance : OfDatum StartScript where
  ofDatum datum := do
    match ← datum.get (α := Option TaskError) "fail" with
    | some error => return .fails error
    | none =>
      return .starts (← datum.get "name") (← datum.getD "host" "10.0.0.1")
        (← datum.getD "port" 6520) (← datum.getD "status" .success) (← datum.getD "errors" "")

instance : OfDatum CloudScript where
  ofDatum datum := do
    return { starts := ← datum.get "start", shutdowns := ← datum.get "shutdown",
             serialLogs := ← datum.get "serial_log", remoteFiles := ← datum.get "remote" }

/-- A device and its role. -/
instance : OfDatum (Device × DeviceRole) where
  ofDatum datum := do
    let serial ← datum.get "serial"
    let properties ← datum.get "properties"
    match ← datum.getD "kind" "physical" with
    | "cloud" =>
      let saver ← datum.get "saver"
      let device : VirtualDevice := { serial, hasSaver := Option.isSome saver, properties }
      return ({ serial, kind := .virtual }, .hosted device (← datum.get "cloud") saver)
    | "bare" => return ({ serial }, .bare)
    | kind =>
      let offline := TaskError.deviceNotAvailable "still offline" serial
      let stuck := TaskError.deviceNotAvailable "reboot failed" serial
      let script : DeviceScript :=
        { waits := ← readCue (readAttempt offline) (datum.field "wait"),
          reboots := ← readCue (readAttempt stuck) (datum.field "reboot"),
          resets := ← readCue (readD · true) (datum.field "reset"), properties }
      return ({ serial, kind := if kind = "virtual" then .virtual else .physical },
        .scripted script)

/-- A script of a provider, by serials or by a property. -/
instance : OfDatum ProviderScript where
  ofDatum datum := do
    match ← datum.get (α := Option String) "property" with
    | none => return .serials (← datum.get "serials")
    | some property => return .property { property, accepted := ← datum.get "accepted" }

/-! ## Units -/

instance : OfDatum Capabilities where
  ofDatum
    | .nothing => return { device := true, notExecutedReport := true }
    | datum => do
      let declared : Names ← datum.read
      return { build := declared.contains "build", device := declared.contains "device",
               configuration := declared.contains "configuration",
               context := declared.contains "context",
               deviceInfos := declared.contains "device_infos",
               statusCheckers := declared.contains "status_checker",
               collectors := declared.contains "collector",
               notExecutedReport := declared.contains "not_executed" }

instance : OfDatum ValueCheck where
  ofDatum datum := do
    match ← datum.word with
    | "nonempty" => return .nonempty
    | "digits" => return .digits
    | "prefix" => return .startsWith (← datum.nth 1)
    | "one_of" => return .oneOf (← datum.nth 1)
    | "always" => return .always (← datum.nth 1)
    | "throw" => return .throws (← datum.nth 1)
    | other => throw ("unknown check " ++ other)

instance : OfDatum UnitOption where
  ofDatum datum := do
    return { name := ← datum.get "name", value := ← datum.get "value",
             mandatory := ← datum.getD "mandatory" false,
             check := (← datum.get (α := Option ValueCheck) "check").map (·.holds) }

instance : OfDatum Action where
  ofDatum datum := do
    match ← datum.word with
    | "return" => return .fail (← datum.nth 1)
    | "throw" => return .throw (← datum.nth 1)
    | "set_prop" => return .setProperty (← datum.nth 1) (← datum.nth 2) (← datum.nth 3)
    | "wrap" => return .wrap
    | "check" => return .check
    | _ => return .send (← datum.read)

instance : OfDatum ReportScript where
  ofDatum
    | .nothing => return .events
    | .text _ => return .nothing
    | datum => return .throws (← datum.get "throw")

/-- Declared options, or what declaring them throws. -/
def readOptions : Datum → Reading (Except Thrown (List UnitOption))
  | .text what => return .error (.saying what)
  | datum => return .ok (← datum.read)

instance : OfDatum UnitScript where
  ofDatum datum := do
    return { options := ← readOptions (datum.field "options"), body := ← datum.get "body",
             report := ← datum.get "report" }

/-! ## Modules -/

instance : OfDatum RunStrategy where
  ofDatum datum := do
    match ← datum.readD "RUN" with
    | "FULL_MODULE_BYPASS" => return .fullModuleBypass
    | "SKIP_MODULE_TESTCASES" => return .skipModuleTestcases
    | _ => return .run

instance : OfDatum ControllerScript where
  ofDatum datum := do
    match datum.field "by_bitness" with
    | .nothing => return .always (← datum.get "strategy")
    | strategies => return .byBitness (← strategies.read)

instance : OfDatum PreparerScript where
  ofDatum datum := do
    let setUp ← datum.get "setup"
    if ← datum.getD "default_teardown" false then return { setUp }
    else return { setUp, tearDown := ← datum.get "teardown" }

instance : OfDatum CollectorScript where
  ofDatum datum := do
    return { name := ← datum.get "name", runStart := ← datum.get "run_start",
             runEnd := ← datum.get "run_end", testEnd := ← datum.get "test_end",
             thrown := ← datum.get "throw" }

instance : OfDatum CheckerScript where
  ofDatum datum := do
    return { before := ← datum.get "pre", after := ← datum.get "post" }

/-- Nothing stands for the default policy. -/
instance : OfDatum RecoveryPolicy where
  ofDatum datum := do
    let policy : RecoveryPolicy := {}
    return { waitTimeoutMs := ← datum.getD "wait_ms" policy.waitTimeoutMs }

end Fleet.Rehearsal
