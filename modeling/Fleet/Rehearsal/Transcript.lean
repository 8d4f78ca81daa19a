import Fleet.Datum.Values
import Fleet.Rehearsal.Journal

/-!
# Transcripts

Journals as data: one row for each entry, which starts with a word that says who was asked. The
events a listener saw can also be cut into whole runs, for comparing what several devices reported
without regard to who came first.
-/

namespace Fleet.Rehearsal

open Datum

/-- A context is written as its identity. -/
def contextId (context : Option Context) : Option String :=
  context.map (·.invocationId)

/-- What was done with a unit, in words. -/
def UnitNote.words : UnitNote → List Datum
  | provided (.build build) => ["set_build", build]
  | provided (.device device) => ["set_device", device]
  | provided (.configuration configuration) =>
    ["set_configuration", configuration.map (·.name)]
  | provided (.context context) =>
    ["set_invocation_context", contextId context, context.map (·.deviceNames)]
  | provided (.deviceInfos infos) => ["set_device_infos", infos]
  | provided (.statusCheckers checkers) => ["set_status_checkers", checkers.map (·.name)]
  | provided (.collectors collectors) => ["set_collectors", collectors.length]
  | ran _ => ["run"]
  | checked before after => ["checked", before, after]
  | notExecuted message => ["report_not_executed", message]

/-- What a collector was asked, in words. -/
def CollectorNote.words : CollectorNote → List Datum
  | init context => ["init", contextId context]
  | runStart context => ["run_start", record [], contextId context]
  | runEnd metrics => ["run_end", metrics]
  | testStart test => ["test_start", test.text]
  | testEnd test metrics => ["test_end", test.text, metrics]

/-- What the cloud was asked, in words. -/
def CloudNote.words : CloudNote → List Datum
  | start count => ["start", count]
  | shutdown name => ["shutdown", name]
  | fetchSerialLog name => ["fetch_serial_log", name]
  | fetchRemoteFile name path => ["fetch_remote_file", name, path]

/-- What a device was asked, in words. -/
def DeviceNote.words : DeviceNote → List Datum
  | await timeoutMs => ["wait", timeoutMs]
  | reboot => ["reboot", nothing]
  | reset => ["reset", nothing]

/-- How a module ended, as its preparers are told. -/
def failureText (failure : Option TaskError) : Option String :=
  failure.map (·.describe)

instance : ToDatum LogEntry where
  toDatum entry :=
    row "log" [entry.level.label, entry.trace, entry.component, entry.event, entry.message]

instance : ToDatum Entry where
  toDatum
    | .log entry => toDatum entry
    | .record level event details => row "event" [level.label, event.label, details]
    | .event listener event timed => row "ev" (listener :: event.row timed)
    | .device serial note => row "device" (serial :: note.words)
    | .cloud note => row "cloud" note.words
    | .save log kind data => row "save" [log, kind, data]
    | .hasToken serial token answer => row "has_token" [serial, token, answer]
    | .unit unit note => row "unit" (unit.name :: note.words)
    | .setUp preparer serial build => row "preparer" [preparer, "set_up", serial, build]
    | .tearDown preparer serial build failure =>
      row "preparer" [preparer, "tear_down", serial, build, failureText failure]
    | .setUpAll preparer devices => row "multi" [preparer, "set_up", devices]
    | .tearDownAll preparer devices failure =>
      row "multi" [preparer, "tear_down", devices, failureText failure]
    | .controller attributes abi => row "controller" [attributes, abi]
    | .collector name note => row "collector" (name :: note.words)
    | .checker name before serial =>
      row "checker" [name, if before then "pre" else "post", serial]

/-- Cut events into top-level runs; an event outside of any run stands alone. -/
def topLevelRuns {α : Type} (event : α → Event) (events : List α) : List (List α) :=
  go [] 0 events
where
  /-- Go on inside a run of which the events so far and the number of open runs are known. -/
  go (current : List α) (openRuns : Nat) : List α → List (List α)
    | [] => if current.isEmpty then [] else [current]
    | next :: rest =>
      let openRuns := openRunsAfter openRuns (event next)
      let current := current ++ [next]
      if openRuns = 0 then current :: go [] 0 rest else go current openRuns rest

/-- The top-level runs a journal tells of, as data, in the order of their text. -/
def runsInOrder (journal : List Entry) : List Datum :=
  let events := journal.filterMap fun
    | .event _ event timed => some (event, timed)
    | _ => none
  let runs := (topLevelRuns Prod.fst events).map fun run =>
    list (run.map fun (event, timed) => list (event.row timed))
  let keyed := runs.map fun run => (run.compact, run)
  (keyed.mergeSort fun a b => !(b.1 < a.1)).map Prod.snd

end Fleet.Rehearsal
