import Fleet.Proofs.InTurn
import Fleet.Proofs.Module.Asides
import Fleet.Proofs.Performance

/-!
# What the units of a module do

A unit of a module plays on the module's stage. What it tells of its tests goes into the results;
its logs go out at once, raw or stored; its errands are its own. Units run in turn, up to the first
one that loses its device.
-/

namespace Fleet

variable {E : Interface}

/-- Whether an event is about a test case. -/
def Event.isCase : Event → Bool
  | .testStarted _ | .testFailed .. | .testIgnored _ | .testEnded .. => true
  | _ => false

/-- A replay tells of a case by events about it only. -/
theorem RunResult.isCase_caseEvents {case : TestCase} :
    ∀ event ∈ caseEvents case, event.isCase = true := by
  unfold caseEvents
  cases case.status <;> simp [Event.isCase]

/-- What is done about one event of a unit, and what the unit hears of it, if logs go to this
saver. -/
inductive Relayed (saver : Option Nat) : Sending → List (Deed E) → Prop where
  /-- An event that is about no log is only recorded. -/
  | recorded {event : Event} (h : event.isLog = false) : Relayed saver ⟨event, .ok ()⟩ []
  /-- Without a saver a raw log is passed on as it is. -/
  | raw {log data : String} {kind : LogKind} {answer : Except Thrown Unit} (h : saver = none) :
      Relayed saver ⟨.testLog log kind data, answer⟩ [.sent 0 ⟨.testLog log kind data, answer⟩]
  /-- A raw log that could be stored is announced. -/
  | stored {id : Nat} {log data : String} {kind : LogKind} {file : LogFile}
      {answer : Except Thrown Unit} (h : saver = some id) :
      Relayed saver ⟨.testLog log kind data, answer⟩
        [.stored id log kind data (.ok file), .sent 0 ⟨.logSaved log kind data file, answer⟩]
  /-- A raw log that could not be stored is given up. -/
  | refused {id : Nat} {log data : String} {kind : LogKind} {error : TaskError}
      (h : saver = some id) :
      Relayed saver ⟨.testLog log kind data, .ok ()⟩ [.stored id log kind data (.error error)]
  /-- A log that a unit has stored itself is passed on as it is. -/
  | passed {log data : String} {kind : LogKind} {file : LogFile} {answer : Except Thrown Unit} :
      Relayed saver ⟨.logSaved log kind data file, answer⟩
        [.sent 0 ⟨.logSaved log kind data file, answer⟩]

/-- What is done while units play, if logs go to this saver. -/
inductive Relays (saver : Option Nat) :
    List (Session.Exchange (stage.sum E)) → List (Deed E) → Prop where
  | done : Relays saver [] []
  | sent {event : Event} {answer : Except Thrown Unit} {now later : List (Deed E)}
      {played : List (Session.Exchange (stage.sum E))} (h : Relayed saver ⟨event, answer⟩ now)
      (rest : Relays saver played later) :
      Relays saver (⟨.inl (.send event), answer⟩ :: played) (now ++ later)
  | wrapped {position : Nat} {context : Option Context}
      {played : List (Session.Exchange (stage.sum E))} {later : List (Deed E)}
      (rest : Relays saver played later) :
      Relays saver (⟨.inl (.wrap position context), .ok ()⟩ :: played) later
  | errand {question : E.Question} {answer : E.Answer question}
      {played : List (Session.Exchange (stage.sum E))} {later : List (Deed E)}
      (rest : Relays saver played later) :
      Relays saver (⟨.inr question, answer⟩ :: played) (.errand ⟨question, answer⟩ :: later)

/-- What one side tells after the other is relayed after the other. -/
theorem Relays.append {saver : Option Nat} {played more : List (Session.Exchange (stage.sum E))}
    {now later : List (Deed E)} (h : Relays saver played now) (hmore : Relays saver more later) :
    Relays saver (played ++ more) (now ++ later) := by
  induction h with
  | done => exact hmore
  | sent h _ ih =>
    rw [List.cons_append, List.append_assoc]
    exact .sent h ih
  | wrapped _ ih => exact .wrapped ih
  | errand _ ih => exact .errand ih

/-- If every listener takes its events, nothing is thrown at those who play. -/
theorem Relays.heard {saver : Option Nat} {played : List (Session.Exchange (stage.sum E))}
    {deeds : List (Deed E)} (h : Relays saver played deeds)
    (htaken : ∀ outlet sending, .sent outlet sending ∈ deeds → sending.answer = .ok ()) :
    Performance.Heard played := by
  induction h with
  | done => exact List.forall_mem_nil _
  | sent hrelayed _ ih =>
    refine List.forall_mem_cons.mpr ⟨?_, ih fun outlet sending h =>
      htaken outlet sending (List.mem_append_right _ h)⟩
    cases hrelayed with
    | recorded | refused => rfl
    | raw => exact htaken 0 _ List.mem_cons_self
    | stored => exact htaken 0 _ (List.mem_cons_of_mem _ List.mem_cons_self)
    | passed => exact htaken 0 _ List.mem_cons_self
  | wrapped _ ih => exact List.forall_mem_cons.mpr ⟨rfl, ih htaken⟩
  | errand _ ih =>
    exact List.forall_mem_cons.mpr
      ⟨trivial, ih fun outlet sending h => htaken outlet sending (List.mem_cons_of_mem _ h)⟩

/-- The events told in a performance. -/
def Performance.told (played : List (Session.Exchange (stage.sum E))) : List Event :=
  played.filterMap fun exchange =>
    match exchange.question with
    | .inl (.send event) => some event
    | _ => none

/-- Events that the stage takes are all told. -/
theorem Performance.told_sendAll {events : List Event}
    {played : List (Session.Exchange (stage.sum E))} {result : Except Thrown Unit}
    (h : (Performance.sendAll events).Path played result)
    (htaken : ∀ event answer, ⟨.inl (.send event), answer⟩ ∈ played → answer = .ok ()) :
    Performance.told played = events ∧ result = .ok () := by
  induction events generalizing played with
  | nil =>
    obtain ⟨rfl, rfl⟩ := Session.path_pure.mp h
    exact ⟨rfl, rfl⟩
  | cons event rest ih =>
    obtain ⟨answer, later, rfl, hlater⟩ := Session.path_ask.mp h
    obtain rfl := htaken event answer List.mem_cons_self
    obtain ⟨htold, rfl⟩ := ih hlater fun event answer hsent =>
      htaken event answer (List.mem_cons_of_mem _ hsent)
    exact ⟨congrArg (event :: ·) htold, rfl⟩

/-- One run of a unit of a module. -/
structure UnitRun (E : Interface) where
  unit : TestUnit
  received : List Dependency
  /-- What it did on stage, and how that was answered. -/
  played : List (Session.Exchange (stage.sum E))
  exit : Exit

namespace UnitRun

/-- The events the unit told. -/
def told (run : UnitRun E) : List Event :=
  Performance.told run.played

/-- The failure of the run. -/
def failure? (run : UnitRun E) : Option TaskError :=
  run.exit.failure? run.unit.name .runtime

/-- The failure of the run, if it lost its device. -/
def loss? (run : UnitRun E) : Option TaskError :=
  run.failure?.filter (·.isDeviceLoss)

/-- What the unit was handed for the run. -/
def wirings (run : UnitRun E) : List (TestUnit × Dependency) :=
  run.received.map (run.unit, ·)

/-- The run is one its unit can have. -/
def Genuine (conducts : Conducts E) (run : UnitRun E) : Prop :=
  ((conducts run.unit).run run.received).Path run.played run.exit

end UnitRun

namespace RunResult

/-- The results after a failure of a unit: the open case is closed, and the failure is noted unless
test cases are skipped. -/
def afterFailure (skip : Bool) (error : TaskError) (result : RunResult) : RunResult :=
  if skip then result.ignoreOpen else (result.failOpen error.describe).runFailed error.message

/-- The results after several events. -/
def collectAll (skip : Bool) (result : RunResult) (events : List Event) : RunResult :=
  events.foldl (Module.collect skip) result

/-- The results after the run of a unit: its events are collected, then its failure is noted. -/
def afterRun (skip : Bool) (result : RunResult) (run : UnitRun E) : RunResult :=
  match run.failure? with
  | none => result.collectAll skip run.told
  | some error => (result.collectAll skip run.told).afterFailure skip error

/-- The results after several runs of units. -/
def afterRuns (skip : Bool) (result : RunResult) (runs : List (UnitRun E)) : RunResult :=
  runs.foldl (afterRun skip) result

end RunResult

namespace Module

variable {first last : Module} {trace : List (Session.Exchange (World E))}

private theorem ends_passLog {log data : String} {kind : LogKind} {result : Except Thrown Unit}
    (h : (passLog log kind data).Ends first trace result last) :
    last = first ∧ Relayed first.saver ⟨.testLog log kind data, result⟩ (Session.deeds trace) ∧
      (Session.Orderly trace → result ≠ .error .other) := by
  rw [passLog, Flow.ends_get_bind] at h
  split at h
  · rename_i hnone
    obtain ⟨rfl, rfl⟩ := Flow.ends_send h
    exact ⟨rfl, .raw hnone, fun horderly => (Session.orderly_cons.mp horderly).1⟩
  · rename_i saver hsome
    obtain ⟨answer, rest, rfl, hstored⟩ := Flow.ends_request_bind.mp h
    cases answer with
    | error error =>
      obtain ⟨⟨⟩, hlogged, rfl, rfl⟩ := Flow.ends_work.mp hstored
      obtain rfl := Flow.path_request.mp hlogged
      exact ⟨rfl, .refused hsome, fun _ => nofun⟩
    | ok file =>
      obtain ⟨rfl, rfl⟩ := Flow.ends_send hstored
      refine ⟨rfl, .stored hsome, ?_⟩
      intro horderly
      exact (Session.orderly_cons.mp (Session.orderly_cons.mp horderly).2).1

private theorem ends_listen (event : Event) {result : Except Thrown Unit}
    (h : (listen event).Ends first trace result last) :
    last = { first with result := collect first.skipsTests first.result event } ∧
      Relayed first.saver ⟨event, result⟩ (Session.deeds trace) ∧
      (Session.Orderly trace → result ≠ .error .other) := by
  cases event with
  | testLog log kind data => exact ends_passLog h
  | logSaved log kind data file =>
    obtain ⟨rfl, rfl⟩ := Flow.ends_send h
    exact ⟨rfl, .passed, fun horderly => (Session.orderly_cons.mp horderly).1⟩
  | _ =>
    obtain ⟨rfl, rfl, rfl⟩ := Flow.ends_modify.mp h
    exact ⟨rfl, .recorded rfl, fun _ => nofun⟩

/-- A unit that plays on the module's stage is heard event by event; nothing else becomes of the
module. -/
theorem ends_perform {performance : Performance E Exit} {exit : Exit}
    (h : (Flow.perform answerStage performance).Ends first trace exit last) :
    ∃ played, performance.Path played exit ∧ Relays first.saver played (Session.deeds trace) ∧
      last = { first with
        result := first.result.collectAll first.skipsTests (Performance.told played) } ∧
      (Session.Orderly trace → Performance.Orderly played) := by
  induction performance generalizing first trace with
  | done ended =>
    obtain ⟨rfl, hdone⟩ := Session.path_pure.mp h
    obtain ⟨rfl, rfl⟩ := Prod.mk.inj hdone
    exact ⟨[], .done _, .done, rfl, fun _ => by simp [Performance.Orderly]⟩
  | ask question next ih =>
    obtain ⟨⟨answer, mid⟩, before, after, rfl, hasked, hrest⟩ := Session.path_seq.mp h
    obtain ⟨played, hplayed, hrelays, hlast, horderly⟩ := ih answer hrest
    refine ⟨⟨question, answer⟩ :: played, .ask hplayed, ?_⟩
    rw [Session.deeds_append]
    rcases question with (event | ⟨position, context⟩) | question
    · obtain ⟨rfl, hrelayed, hkind⟩ := ends_listen event hasked
      refine ⟨.sent hrelayed hrelays, hlast, ?_⟩
      intro h
      obtain ⟨hbefore, hafter⟩ := Session.orderly_append.mp h
      exact List.forall_mem_cons.mpr ⟨hkind hbefore, horderly hafter⟩
    · obtain ⟨rfl, rfl, rfl⟩ :=
        Flow.ends_pure.mp (show (pure () : Flow E Module Unit).Ends _ _ answer _ from hasked)
      refine ⟨.wrapped hrelays, hlast, ?_⟩
      intro h
      exact List.forall_mem_cons.mpr ⟨nofun, horderly h⟩
    · obtain ⟨_, _, rfl, hdone⟩ := Session.path_ask.mp hasked
      obtain ⟨rfl, hanswer⟩ := Session.path_done.mp hdone
      obtain ⟨rfl, rfl⟩ := Prod.mk.inj hanswer
      refine ⟨.errand hrelays, hlast, ?_⟩
      intro h
      exact List.forall_mem_cons.mpr ⟨trivial, horderly (Session.orderly_cons.mp h).2⟩

private theorem unwiring_answerStage (question : StageRequest) :
    (answerStage (E := E) question).Asks World.Unwiring := by
  cases question with
  | send event =>
    cases event with
    | testLog log kind data =>
      refine .bind .get ?_
      intro module
      split
      · exact .send rfl
      · refine .bind (.request rfl) ?_
        intro saved
        cases saved with
        | error error => exact .log fun _ _ => rfl
        | ok file => exact .send rfl
    | logSaved log kind data file => exact .send rfl
    | _ => exact .modify fun _ => trivial
  | wrap position context => exact .pure _

private theorem ends_runUnit {conducts : Conducts E} {unit : TestUnit}
    {result : Except Thrown Outcome}
    (h : (runUnit conducts unit).Ends first trace result last)
    (horderly : Session.Orderly trace) (hunit : (conducts unit).Orderly) :
    ∃ run : UnitRun E, run.unit = unit ∧
      run.received = first.dependencies unit.capabilities ∧ run.Genuine conducts ∧
      Relays first.saver run.played (Session.deeds trace) ∧
      Session.wirings trace = run.wirings ∧
      result = .ok (.ofFailure run.failure?) ∧
      last = { first with result := first.result.collectAll first.skipsTests run.told } := by
  rw [runUnit, Flow.ends_get_bind] at h
  obtain ⟨before, after, rfl, hbefore, hwired, hrun⟩ := ends_provide_bind h horderly
  obtain ⟨exit, playing, rest, mid, rfl, hperform, hsettle⟩ := Flow.ends_attempt_bind.mp hrun
  obtain ⟨-, hafter⟩ := Session.orderly_append.mp horderly
  obtain ⟨hplaying, -⟩ := Session.orderly_append.mp hafter
  obtain ⟨played, hplayed, hrelays, rfl, hstage⟩ := ends_perform hperform
  rw [settle_eq (hunit _ _ _ hplayed (hstage hplaying))] at hsettle
  obtain ⟨rfl, rfl, rfl⟩ := Flow.ends_pure.mp hsettle
  have hunwiring : Flow.Asks World.Unwiring (Flow.perform answerStage
      ((conducts unit).run (first.dependencies unit.capabilities))) :=
    .perform unwiring_answerStage (fun _ => trivial) _
  have hunwired := hunwiring.wirings hperform
  rw [List.append_nil]
  refine ⟨⟨unit, _, played, exit⟩, rfl, rfl, hplayed, ?_, ?_, rfl, rfl⟩
  · rw [Session.deeds_append, hbefore]
    exact hrelays
  · rw [Session.wirings_append, hwired, hunwired, List.append_nil]
    rfl

/-- In the conversation these units have their runs, in turn, and the results tell of them. -/
structure Runs (conducts : Conducts E) (first : Module)
    (trace : List (Session.Exchange (World E))) (last : Module) (units : List TestUnit)
    (runs : List (UnitRun E)) : Prop where
  inTurn : InTurn UnitRun.unit UnitRun.loss? (units.filter first.allows) runs
  genuine : ∀ run ∈ runs,
    run.Genuine conducts ∧ run.received = first.dependencies run.unit.capabilities
  relays : Relays first.saver (runs.flatMap (·.played)) (Session.deeds trace)
  wirings : Session.wirings trace = runs.flatMap UnitRun.wirings
  last : last = { first with result := first.result.afterRuns first.skipsTests runs }

private theorem runs_nil {conducts : Conducts E} (h : Session.Idling trace) :
    Runs conducts first trace first [] [] :=
  ⟨.finished, by simp, h.deeds ▸ .done, h.wirings, rfl⟩

namespace Runs

variable {conducts : Conducts E} {run : UnitRun E} {runs : List (UnitRun E)}
  {rest : List TestUnit} {before after : List (Session.Exchange (World E))}

/-- A run that loses its device is the last one. -/
theorem lost (hallows : first.allows run.unit = true) {error : TaskError}
    (hlost : run.loss? = some error)
    (hgenuine : run.Genuine conducts ∧ run.received = first.dependencies run.unit.capabilities)
    (hrelays : Relays first.saver run.played (Session.deeds trace))
    (hwired : Session.wirings trace = run.wirings) :
    Runs conducts first trace { first with result := first.result.afterRun first.skipsTests run }
      (run.unit :: rest) [run] where
  inTurn := by
    rw [List.filter_cons_of_pos hallows]
    exact .stopped hlost
  genuine := by simpa using hgenuine
  relays := by simpa using hrelays
  wirings := by simpa using hwired
  last := rfl

/-- Any other run is followed by the next one. -/
theorem cons (hallows : first.allows run.unit = true) (hkept : run.loss? = none)
    (hgenuine : run.Genuine conducts ∧ run.received = first.dependencies run.unit.capabilities)
    (hrelays : Relays first.saver run.played (Session.deeds before))
    (hwired : Session.wirings before = run.wirings)
    (h : Runs conducts { first with result := first.result.afterRun first.skipsTests run } after
      last rest runs) :
    Runs conducts first (before ++ after) last (run.unit :: rest) (run :: runs) where
  inTurn := by
    rw [List.filter_cons_of_pos hallows]
    exact .goesOn hkept h.inTurn
  genuine := List.forall_mem_cons.mpr ⟨hgenuine, h.genuine⟩
  relays := by
    rw [List.flatMap_cons, Session.deeds_append]
    exact hrelays.append h.relays
  wirings := by rw [List.flatMap_cons, Session.wirings_append, hwired, h.wirings]
  last := h.last

end Runs

/-- After the run of a unit its failure is noted. A loss ends it; otherwise the next unit runs. -/
theorem ends_afterUnit {conducts : Conducts E} {run : UnitRun E} {rest : List TestUnit}
    {result : Except Thrown (Option TaskError)}
    (h : (match Outcome.ofFailure run.failure? with
      | .ok () => runUnits conducts rest
      | .error error => do
        modify (recordUnitFailure error)
        if error.isDeviceLoss then
          log .error "device_lost" ("Device lost while running " ++ run.unit.name ++ ": "
            ++ error.message)
          return some error
        else
          log .error "unit_failed" (run.unit.name ++ " failed: " ++ error.describe
            ++ ". Proceeding to the next unit.")
          runUnits conducts rest : Flow E Module (Option TaskError)).Ends
        { first with result := first.result.collectAll first.skipsTests run.told } trace result
        last) :
    (∃ error, run.loss? = some error ∧ Session.Idling trace ∧ result = .ok (some error) ∧
      last = { first with result := first.result.afterRun first.skipsTests run }) ∨
    (run.loss? = none ∧ ∃ before after, trace = before ++ after ∧ Session.Idling before ∧
      (runUnits conducts rest).Ends
        { first with result := first.result.afterRun first.skipsTests run } after result last) := by
  cases hfailure : run.failure? with
  | none =>
    have hkept : run.loss? = none := by simp [UnitRun.loss?, hfailure]
    have hresult : first.result.afterRun first.skipsTests run =
        first.result.collectAll first.skipsTests run.told := by
      simp [RunResult.afterRun, hfailure]
    rw [hfailure, ← hresult] at h
    exact .inr ⟨hkept, [], trace, rfl, Session.idling_nil, h⟩
  | some error =>
    have hresult : recordUnitFailure error
        { first with result := first.result.collectAll first.skipsTests run.told } =
        { first with result := first.result.afterRun first.skipsTests run } := by
      simp only [RunResult.afterRun, hfailure]
      rfl
    rw [hfailure, Outcome.ofFailure, Flow.ends_modify_bind, hresult] at h
    split at h
    · rename_i hloss
      obtain ⟨logged, done, rfl, hlogged, hdone⟩ := ends_log_bind h
      obtain ⟨rfl, rfl, rfl⟩ := Flow.ends_pure.mp hdone
      refine .inl ⟨error, ?_, by simpa using hlogged, rfl, rfl⟩
      simp [UnitRun.loss?, hfailure, hloss]
    · rename_i hkind
      obtain ⟨logged, later, rfl, hlogged, hgoesOn⟩ := ends_log_bind h
      refine .inr ⟨?_, logged, later, rfl, hlogged, hgoesOn⟩
      simp [UnitRun.loss?, hfailure, hkind]

/-- Units run in turn, up to the first that loses its device. -/
theorem ends_runUnits {conducts : Conducts E} {units : List TestUnit}
    {result : Except Thrown (Option TaskError)}
    (h : (runUnits conducts units).Ends first trace result last)
    (horderly : Session.Orderly trace) (hunits : ∀ unit ∈ units, (conducts unit).Orderly) :
    ∃ runs, Runs conducts first trace last units runs ∧
      result = .ok (runs.findSome? UnitRun.loss?) := by
  induction units generalizing first trace with
  | nil =>
    obtain ⟨rfl, rfl, rfl⟩ := Flow.ends_pure.mp h
    exact ⟨[], runs_nil Session.idling_nil, rfl⟩
  | cons unit rest ih =>
    obtain ⟨hunit, hrest⟩ := List.forall_mem_cons.mp hunits
    rw [runUnits, Flow.ends_get_bind] at h
    split at h
    · rename_i hleftOut
      have hallows : first.allows unit = false := by simpa using hleftOut
      obtain ⟨before, after, rfl, hbefore, hlater⟩ := ends_log_bind h
      obtain ⟨runs, hruns, rfl⟩ := ih hlater (Session.orderly_append.mp horderly).2 hrest
      refine ⟨runs, ⟨?_, hruns.genuine, ?_, ?_, hruns.last⟩, rfl⟩
      · simpa [hallows] using hruns.inTurn
      · rw [Session.deeds_append, hbefore.deeds]
        exact hruns.relays
      · rw [Session.wirings_append, hbefore.wirings]
        exact hruns.wirings
    · rename_i hallowed
      have hallows : first.allows unit = true := by simpa using hallowed
      rcases Flow.ends_bind.mp h with
        ⟨thrown, hthrown, -⟩ | ⟨outcome, before, after, mid, rfl, hone, hafter⟩
      · obtain ⟨_, -, -, -, -, -, hnot, -⟩ := ends_runUnit hthrown horderly hunit
        cases hnot
      · obtain ⟨hbefore, hlater⟩ := Session.orderly_append.mp horderly
        obtain ⟨run, rfl, hreceived, hgenuine, hrelays, hwired, houtcome, rfl⟩ :=
          ends_runUnit hone hbefore hunit
        obtain rfl := Except.ok.inj houtcome
        -- The module that goes on differs in its results only, so the same units are planned.
        rcases ends_afterUnit hafter with
          ⟨error, hlost, hdone, rfl, rfl⟩ | ⟨hkept, logged, later, rfl, hlogged, hgoesOn⟩
        · refine ⟨[run], .lost hallows hlost ⟨hgenuine, hreceived⟩ ?_ ?_, by simp [hlost]⟩
          · simpa [hdone.deeds] using hrelays
          · simpa [hdone.wirings] using hwired
        · obtain ⟨runs, hruns, rfl⟩ := ih hgoesOn (Session.orderly_append.mp hlater).2 hrest
          refine ⟨run :: runs, ?_, by rw [List.findSome?_cons_of_isNone (by simp [hkept])]⟩
          rw [← List.append_assoc]
          refine hruns.cons hallows hkept ⟨hgenuine, hreceived⟩ ?_ ?_
          · simpa [hlogged.deeds] using hrelays
          · simpa [hlogged.wirings] using hwired

end Module

end Fleet
