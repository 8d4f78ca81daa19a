import Fleet.Module.Performance
import Fleet.Proofs.Module.Cleanup
import Fleet.Proofs.Module.Units

/-!
# The course of a module's run

A run of a module that is not bypassed has five parts: a decision may be asked for, targets are set
up, units run, targets are cleaned up, and all results are reported as one run. A course says what
was done in each part. Every orderly conversation of such a run tells one, and what the module comes
to is read off it.
-/

namespace Fleet

variable {E : Interface}

/-- What is done in each part of a module's run. -/
structure Course (E : Interface) where
  /-- What the controller decided, if there is one. -/
  decisions : List RunStrategy
  setUps : List SetUp
  runs : List (UnitRun E)
  /-- What was done while the units ran. -/
  traffic : List (Deed E)
  tearDowns : List TearDown
  report : List Sending

/-- The results after a failure outside of any unit. -/
def RunResult.afterSynthetic (error : TaskError) (testName : String) (result : RunResult) :
    RunResult :=
  let test : TestDescription := { className := error.category.label, testName }
  ((((result.addExpected 1).testStarted test).testFailed test error.describe).testEnded test
    .empty).runFailed error.message

/-- The results after the cleanup: its failure is recorded if nothing failed before. -/
def RunResult.afterCleanup (failure untidied : Option TaskError) (result : RunResult) :
    RunResult :=
  match failure, untidied with
  | none, some error => result.afterSynthetic error "tearDownError"
  | _, _ => result

/-- What is cleaned up after targets were set up: all devices at once before single ones, each kind
in the opposite order. -/
def Target.backwards (targets : List Target) : List Target :=
  (targets.filter (·.isAll)).reverse ++ (targets.filter (·.isCleaned)).reverse

namespace Module

/-- A module of which nothing is recorded or prepared, as before its first run. -/
structure Fresh (module : Module) : Prop where
  result : module.result = {}
  prepared : module.prepared = []
  preparedMulti : module.preparedMulti = []

/-- A new module is fresh. -/
theorem fresh_create (id : String) (tests : List TestUnit)
    (preparers : List (String × List Preparer)) (multiPreparers : List MultiPreparer)
    (config : Option Configuration) :
    (create id tests preparers multiPreparers config).Fresh :=
  ⟨rfl, rfl, rfl⟩

/-- What a module is handed leaves it fresh. -/
theorem Fresh.receive {module : Module} (h : module.Fresh) (dependency : Dependency) :
    (module.receive dependency).Fresh := by
  cases dependency <;> exact ⟨h.result, h.prepared, h.preparedMulti⟩

/-- The failure that keeps the units from running. -/
def unprepared (module : Module) (setUps : List SetUp) : Option TaskError :=
  setUps.findSome? SetUp.failure? <|> module.missingDevice module.preparers

/-- The units that are to run after these calls to set up: none if something failed. -/
def plannedUnits (module : Module) (setUps : List SetUp) : List TestUnit :=
  if (module.unprepared setUps).isNone then module.tests.filter module.allows else []

/-- No unit runs where setting up failed. -/
theorem runs_eq_nil {module : Module} {setUps : List SetUp} {runs : List (UnitRun E)}
    (h : InTurn UnitRun.unit UnitRun.loss? (module.plannedUnits setUps) runs) {error : TaskError}
    (hfailed : module.unprepared setUps = some error) : runs = [] := by
  rw [plannedUnits, hfailed] at h
  exact h.eq_nil

variable {conducts : Conducts E} {first last : Module}
  {trace : List (Session.Exchange (World E))}

/-- In the conversation the module sets up and runs units, and records what became of them. -/
structure Works (conducts : Conducts E) (first : Module)
    (trace : List (Session.Exchange (World E))) (last : Module) (setUps : List SetUp)
    (runs : List (UnitRun E)) (traffic : List (Deed E)) : Prop where
  prepares : InTurn SetUp.target SetUp.failure? first.targets setUps
  plays : InTurn UnitRun.unit UnitRun.loss? (first.plannedUnits setUps) runs
  genuine : ∀ run ∈ runs,
    run.Genuine conducts ∧ run.received = first.dependencies run.unit.capabilities
  relays : Relays first.saver (runs.flatMap (·.played)) traffic
  deeds : Session.deeds trace = setUps.map .setUp ++ traffic
  wirings : Session.wirings trace = runs.flatMap UnitRun.wirings
  ended : ∃ lifecycle, last =
    { first.remember (setUps.map SetUp.target) with
      lifecycle
      result :=
        match first.unprepared setUps with
        | some error => first.result.afterSynthetic error "preparationError"
        | none => first.result.afterRuns first.skipsTests runs }

private theorem ends_prepareAndRun {result : Except Thrown (Option TaskError)}
    (h : (prepareAndRun conducts).Ends first trace result last)
    (horderly : Session.Orderly trace) (hunits : ∀ unit ∈ first.tests, (conducts unit).Orderly) :
    ∃ setUps runs traffic, Works conducts first trace last setUps runs traffic ∧
      result = .ok (first.unprepared setUps <|> runs.findSome? UnitRun.loss?) := by
  rw [prepareAndRun] at h
  obtain ⟨moved, rest, lifecycle, rfl, hmoved, hrest⟩ := ends_transition_bind h
  obtain ⟨-, hrestOrderly⟩ := Session.orderly_append.mp horderly
  rcases Flow.ends_bind.mp hrest with
    ⟨thrown, hthrown, -⟩ | ⟨failed, before, after, mid, rfl, hprepare, hafter⟩
  · obtain ⟨_, hsetUps⟩ := ends_prepare hthrown hrestOrderly
    cases hsetUps.result
  · obtain ⟨hbefore, hafterOrderly⟩ := Session.orderly_append.mp hrestOrderly
    obtain ⟨setUps, hsetUps⟩ := ends_prepare hprepare hbefore
    obtain rfl := Except.ok.inj hsetUps.result
    obtain rfl := hsetUps.last
    have hunprepared : (setUps.findSome? SetUp.failure? <|>
        missingDevice { first with lifecycle } first.preparers) = first.unprepared setUps :=
      rfl
    rw [hunprepared] at hafter
    cases hfailed : first.unprepared setUps with
    | some error =>
      have hplanned : first.plannedUnits setUps = [] := by simp [plannedUnits, hfailed]
      rw [hfailed] at hafter
      obtain ⟨logged, done, rfl, hlogged, hdone⟩ := ends_log_bind hafter
      rw [Flow.ends_modify_bind] at hdone
      obtain ⟨rfl, rfl, rfl⟩ := Flow.ends_pure.mp hdone
      refine ⟨setUps, [], [], ⟨hsetUps.inTurn, hplanned ▸ .finished, by simp, .done, ?_, ?_, ?_⟩,
        by rw [hfailed]; rfl⟩
      · simp [hmoved.deeds, hlogged.deeds, hsetUps.deeds]
      · simp [hmoved.wirings, hlogged.wirings, hsetUps.wirings]
      · rw [hfailed]
        exact ⟨lifecycle, rfl⟩
    | none =>
      have hplanned : first.plannedUnits setUps = first.tests.filter first.allows := by
        simp [plannedUnits, hfailed]
      rw [hfailed] at hafter
      obtain ⟨started, played, running, rfl, hstarted, hplayed⟩ := ends_transition_bind hafter
      rw [Flow.ends_get_bind] at hplayed
      obtain ⟨runs, hruns, rfl⟩ :=
        ends_runUnits hplayed (Session.orderly_append.mp hafterOrderly).2 hunits
      refine ⟨setUps, runs, Session.deeds played,
        ⟨hsetUps.inTurn, hplanned ▸ hruns.inTurn, hruns.genuine, hruns.relays, ?_, ?_, ?_⟩,
        by simp [hfailed]⟩
      · simp [hmoved.deeds, hstarted.deeds, hsetUps.deeds]
      · simp [hmoved.wirings, hstarted.wirings, hsetUps.wirings, hruns.wirings]
      · rw [hfailed]
        exact ⟨running, hruns.last⟩

/-- Events are sent in turn, until the listener throws. -/
theorem ends_sendAll {events : List Event} {result : Except Thrown Unit}
    (h : (events.forM (Flow.send 0)).Ends first trace result last) :
    ∃ report, InTurn Sending.event Sending.thrown? events report ∧
      Session.deeds trace = report.map (.sent 0) ∧ Session.wirings trace = [] ∧
      result = Sending.comesTo report ∧ last = first := by
  induction events generalizing trace with
  | nil =>
    obtain ⟨rfl, rfl, rfl⟩ := Flow.ends_pure.mp h
    exact ⟨[], .finished, rfl, rfl, rfl, rfl⟩
  | cons event rest ih =>
    rw [List.forM] at h
    rcases Flow.ends_bind.mp h with
      ⟨thrown, hthrown, rfl⟩ | ⟨⟨⟩, before, after, mid, rfl, hsent, hrest⟩
    · obtain ⟨rfl, rfl⟩ := Flow.ends_send hthrown
      let sending : Sending := ⟨event, .error thrown⟩
      have hthrows : sending.thrown? = some thrown := rfl
      have hreport : InTurn Sending.event Sending.thrown? (sending.event :: rest) [sending] :=
        .stopped hthrows
      exact ⟨[sending], hreport, rfl, rfl, rfl, rfl⟩
    · obtain ⟨rfl, rfl⟩ := Flow.ends_send hsent
      obtain ⟨report, hreport, hdeeds, hunwired, rfl, rfl⟩ := ih hrest
      let sending : Sending := ⟨event, .ok ()⟩
      have htaken : sending.thrown? = none := rfl
      have hall : InTurn Sending.event Sending.thrown? (sending.event :: rest)
          (sending :: report) :=
        .goesOn htaken hreport
      refine ⟨sending :: report, hall, ?_, ?_, rfl, rfl⟩
      · rw [Session.deeds_append, hdeeds]
        rfl
      · rw [Session.wirings_append, hunwired]
        rfl

/-- All results are reported as one run. -/
theorem ends_report {startedAt : Int} {outcome : Outcome} {result : Exit}
    (h : (do
      transition .done
      let finishedAt ← Flow.request .clock
      let module ← get
      (module.result.replay module.id (finishedAt - startedAt)).forM (Flow.send 0)
      return outcome : Flow E Module Outcome).Ends first trace result last) :
    ∃ elapsed report lifecycle, last = { first with lifecycle } ∧
      InTurn Sending.event Sending.thrown? (last.result.replay first.id elapsed) report ∧
      Session.deeds trace = report.map (.sent 0) ∧ Session.wirings trace = [] ∧
      result = (Sending.comesTo report).map fun () => outcome := by
  obtain ⟨moved, rest, lifecycle, rfl, hmoved, hrest⟩ := ends_transition_bind h
  obtain ⟨finishedAt, later, rfl, hlater⟩ := Flow.ends_request_bind.mp hrest
  rw [Flow.ends_get_bind] at hlater
  have hdeeds : Session.deeds (moved ++ ⟨.inl .clock, finishedAt⟩ :: later) =
      Session.deeds later := by
    rw [Session.deeds_append, hmoved.deeds, Session.deeds_request]
    rfl
  have hwirings : Session.wirings (moved ++ ⟨.inl .clock, finishedAt⟩ :: later) =
      Session.wirings later := by
    rw [Session.wirings_append, hmoved.wirings, Session.wirings_request]
    rfl
  rw [hdeeds, hwirings]
  rcases Flow.ends_bind.mp hlater with
    ⟨thrown, hthrown, rfl⟩ | ⟨⟨⟩, before, after, mid, rfl, hsending, hdone⟩
  · obtain ⟨report, hreport, hsent, hunwired, hresult, rfl⟩ := ends_sendAll hthrown
    exact ⟨_, report, lifecycle, rfl, hreport, hsent, hunwired, by rw [← hresult]; rfl⟩
  · obtain ⟨rfl, rfl, rfl⟩ := Flow.ends_pure.mp hdone
    obtain ⟨report, hreport, hsent, hunwired, hresult, rfl⟩ := ends_sendAll hsending
    rw [List.append_nil]
    exact ⟨_, report, lifecycle, rfl, hreport, hsent, hunwired, by rw [← hresult]; rfl⟩

/-- In the end a failed cleanup is recorded if nothing failed before, and all is reported. -/
theorem ends_closing {startedAt : Int} {failure untidied : Option TaskError} {outcome : Outcome}
    {result : Exit}
    (h : (do
      if let (none, some error) := (failure, untidied) then
        modify (·.recordSyntheticFailure error "tearDownError")
      transition .done
      let finishedAt ← Flow.request .clock
      let module ← get
      (module.result.replay module.id (finishedAt - startedAt)).forM (Flow.send 0)
      return outcome : Flow E Module Outcome).Ends first trace result last) :
    ∃ elapsed report lifecycle,
      last = { first with lifecycle, result := first.result.afterCleanup failure untidied } ∧
      InTurn Sending.event Sending.thrown? (last.result.replay first.id elapsed) report ∧
      Session.deeds trace = report.map (.sent 0) ∧ Session.wirings trace = [] ∧
      result = (Sending.comesTo report).map fun () => outcome := by
  -- The three cases of the condition go on to the same report.
  cases failure with
  | some error => exact ends_report h
  | none =>
    cases untidied with
    | none => exact ends_report h
    | some error => exact ends_report h

end Module

namespace Course

variable {conducts : Conducts E} {module ready last : Module}
  {trace : List (Session.Exchange (World E))} {result : Exit}

/-- All that was done. -/
def deeds (course : Course E) : List (Deed E) :=
  course.decisions.map .decided ++ course.setUps.map .setUp ++ course.traffic ++
    course.tearDowns.map .tornDown ++ course.report.map (.sent 0)

/-- The course is the one the conversation took: it has these deeds, and its runs are those of the
units that were to run, in turn, each with the dependencies it is due and hearing what the
conversation says. -/
structure Tells (course : Course E) (conducts : Conducts E) (ready : Module)
    (trace : List (Session.Exchange (World E))) : Prop where
  deeds : Session.deeds trace = course.deeds
  plays : InTurn UnitRun.unit UnitRun.loss? (ready.plannedUnits course.setUps) course.runs
  genuine : ∀ run ∈ course.runs,
    run.Genuine conducts ∧ run.received = ready.dependencies run.unit.capabilities
  relays : Relays ready.saver (course.runs.flatMap (·.played)) course.traffic

/-- In a calm conversation the units are heard. -/
theorem Tells.heard_of_calm {course : Course E} {conducts : Conducts E} {ready : Module}
    {trace : List (Session.Exchange (World E))} (h : course.Tells conducts ready trace)
    (hcalm : Session.Calm trace) {run : UnitRun E} (hrun : run ∈ course.runs) :
    Performance.Heard run.played := by
  have hheard : Performance.Heard (course.runs.flatMap (·.played)) := by
    refine h.relays.heard fun outlet sending hdone => ?_
    have hsending : .sent outlet sending ∈ Session.deeds trace := by
      rw [h.deeds, Course.deeds]
      simp [hdone]
    exact Session.taken_of_calm hcalm hsending
  exact fun exchange hexchange => hheard exchange (List.mem_flatMap.mpr ⟨run, hrun, hexchange⟩)

/-- What ended setting up or running units, if something did. -/
def failure (course : Course E) (ready : Module) : Option TaskError :=
  ready.unprepared course.setUps <|> course.runs.findSome? UnitRun.loss?

/-- The first failure to clean up. -/
def untidied (course : Course E) : Option TaskError :=
  course.tearDowns.findSome? TearDown.failure?

/-- If all calls to set up that were made succeed, nothing fails in the setup of the course. -/
theorem Tells.setUps_succeed {course : Course E} {conducts : Conducts E} {ready : Module}
    {trace : List (Session.Exchange (World E))} (h : course.Tells conducts ready trace)
    (hall : ∀ call, .setUp call ∈ Session.deeds trace → call.exit = .ok (.ok ())) :
    course.setUps.findSome? SetUp.failure? = none := by
  refine List.findSome?_eq_none_iff.mpr fun call hcall => ?_
  have hmade : .setUp call ∈ Session.deeds trace := by
    rw [h.deeds, Course.deeds]
    simp [hcall]
  rw [SetUp.failure?, hall call hmade]
  rfl

/-- If all calls to clean up that were made succeed, nothing fails in the cleanup of the course. -/
theorem Tells.untidied_eq_none {course : Course E} {conducts : Conducts E} {ready : Module}
    {trace : List (Session.Exchange (World E))} (h : course.Tells conducts ready trace)
    (hall : ∀ call, .tornDown call ∈ Session.deeds trace → call.exit = .ok (.ok ())) :
    course.untidied = none := by
  refine List.findSome?_eq_none_iff.mpr fun call hcall => ?_
  have hmade : .tornDown call ∈ Session.deeds trace := by
    rw [h.deeds, Course.deeds]
    simp [hcall]
  rw [TearDown.failure?, hall call hmade]
  rfl

/-- The failure that is recorded as a case of its own, and the name of that case: one of setting up,
or one of cleaning up if nothing failed before. -/
def synthetic (course : Course E) (ready : Module) : Option (TaskError × String) :=
  match ready.unprepared course.setUps, course.runs.findSome? UnitRun.loss?, course.untidied with
  | some error, _, _ => some (error, "preparationError")
  | none, none, some error => some (error, "tearDownError")
  | none, _, _ => none

/-- Whether test cases are skipped in the course. -/
def skips (course : Course E) : Bool :=
  course.decisions.head?.getD .run = .skipModuleTestcases

/-- The results of the course. -/
def recorded (course : Course E) (ready : Module) (skip : Bool) : RunResult :=
  let played := RunResult.afterRuns skip {} course.runs
  match course.synthetic ready with
  | none => played
  | some (error, testName) => played.afterSynthetic error testName

/-- The conversation took this course, and it is the course a run has to take: everything is made in
turn and cleaned up backwards, and the results are reported. -/
structure Follows (course : Course E) (conducts : Conducts E) (ready : Module)
    (trace : List (Session.Exchange (World E))) (result : Exit) (last : Module) : Prop
    extends course.Tells conducts ready trace where
  wirings : Session.wirings trace = course.runs.flatMap UnitRun.wirings
  prepares : InTurn SetUp.target SetUp.failure? ready.targets course.setUps
  tidies : course.tearDowns.map TearDown.target =
    Target.backwards (course.setUps.map SetUp.target)
  told : ∀ call ∈ course.tearDowns, call.told = course.failure ready
  recorded : last.result = course.recorded ready last.skipsTests
  reports : ∃ elapsed, InTurn Sending.event Sending.thrown?
    (last.result.replay ready.id elapsed) course.report
  result : result = (Sending.comesTo course.report).map fun () =>
    Module.outcomeOf (course.failure ready) course.untidied

end Course

namespace Module

/-- What the module remembers after its work is cleaned up backwards. -/
theorem Works.leftovers_eq {setUps : List SetUp} {runs : List (UnitRun E)}
    {traffic : List (Deed E)} (h : Works conducts first trace last setUps runs traffic)
    (hfresh : first.Fresh) :
    last.leftovers = Target.backwards (setUps.map SetUp.target) := by
  have hcontext : ∀ preparer context, Target.all preparer context ∈ setUps.map SetUp.target →
      context = first.context := by
    intro preparer context hmem
    obtain ⟨call, hcall, htarget⟩ := List.mem_map.mp hmem
    exact context_of_mem_targets (htarget ▸ h.prepares.planned_mem hcall)
  obtain ⟨lifecycle, rfl⟩ := h.ended
  exact leftovers_remember hfresh.prepared hfresh.preparedMulti hcontext

private theorem Works.kept {setUps : List SetUp} {runs : List (UnitRun E)} {traffic : List (Deed E)}
    (h : Works conducts first trace last setUps runs traffic) :
    last.id = first.id ∧ last.strategy = first.strategy := by
  obtain ⟨lifecycle, rfl⟩ := h.ended
  exact ⟨rfl, rfl⟩

/-- The results after the work and the cleanup are those of the course. -/
theorem Works.result_eq {course : Course E}
    (h : Works conducts first trace last course.setUps course.runs course.traffic)
    (hfresh : first.Fresh) :
    last.result.afterCleanup (course.failure first) course.untidied =
      course.recorded first first.skipsTests := by
  obtain ⟨lifecycle, rfl⟩ := h.ended
  unfold Course.recorded Course.synthetic Course.failure
  cases hunprepared : first.unprepared course.setUps with
  | some error =>
    simp [runs_eq_nil h.plays hunprepared, hfresh.result, RunResult.afterRuns,
      RunResult.afterCleanup]
  | none =>
    cases course.runs.findSome? UnitRun.loss? with
    | some error => simp [hfresh.result, RunResult.afterCleanup]
    | none => cases course.untidied <;> simp [hfresh.result, RunResult.afterCleanup]

private theorem ends_runPhases {startedAt : Int} {result : Exit}
    (h : (runPhases conducts startedAt).Ends first trace result last) (hfresh : first.Fresh)
    (horderly : Session.Orderly trace) (hunits : ∀ unit ∈ first.tests, (conducts unit).Orderly) :
    ∃ course : Course E, course.decisions = [] ∧ last.strategy = first.strategy ∧
      course.Follows conducts first trace result last := by
  rw [runPhases] at h
  rcases Flow.ends_bind.mp h with
    ⟨thrown, hthrown, -⟩ | ⟨failed, before, after, mid, rfl, hwork, hafter⟩
  · obtain ⟨_, _, _, -, hnot⟩ := ends_prepareAndRun hthrown horderly hunits
    cases hnot
  · obtain ⟨hbefore, hafterOrderly⟩ := Session.orderly_append.mp horderly
    obtain ⟨setUps, runs, traffic, hworks, hfailed⟩ := ends_prepareAndRun hwork hbefore hunits
    obtain rfl := Except.ok.inj hfailed
    obtain ⟨moved, rest, lifecycle, rfl, hmoved, hrest⟩ := ends_transition_bind hafter
    obtain ⟨-, hrestOrderly⟩ := Session.orderly_append.mp hafterOrderly
    rcases Flow.ends_bind.mp hrest with
      ⟨thrown, hthrown, -⟩ | ⟨untidied, undoing, reporting, tidied, rfl, htidied, hclosing⟩
    · obtain ⟨_, -, hnot, -⟩ := ends_tearDown hthrown hrestOrderly
      cases hnot
    · obtain ⟨tearDowns, hundone, huntidied, rfl⟩ :=
        ends_tearDown htidied (Session.orderly_append.mp hrestOrderly).1
      obtain rfl := Except.ok.inj huntidied
      obtain ⟨elapsed, sendings, ended, rfl, hreport, hsent, hunwired, rfl⟩ :=
        ends_closing hclosing
      let course : Course E := ⟨[], setUps, runs, traffic, tearDowns, sendings⟩
      refine ⟨course, rfl, ?_, ⟨?_, hworks.plays, hworks.genuine, hworks.relays⟩, ?_,
        hworks.prepares, ?_, hundone.told, ?_, ⟨elapsed, ?_⟩, rfl⟩
      · exact hworks.kept.2
      · simp [Course.deeds, course, hworks.deeds, hmoved.deeds, hundone.deeds, hsent]
      · simp [course, hworks.wirings, hmoved.wirings, hundone.wirings, hunwired]
      · rw [← hworks.leftovers_eq hfresh]
        exact hundone.targets
      · have hskip : first.skipsTests = mid.skipsTests := by
          rw [skipsTests, skipsTests, hworks.kept.2]
        have hrecorded : mid.result.afterCleanup (course.failure first) course.untidied =
            course.recorded first first.skipsTests :=
          Works.result_eq hworks hfresh
        rw [hskip] at hrecorded
        exact hrecorded
      · rw [← hworks.kept.1]
        exact hreport

private theorem ends_askController {result : Except Thrown RunStrategy}
    (h : askController.Ends first trace result last) :
    ∃ decisions : List RunStrategy, Session.deeds trace = decisions.map .decided ∧
      Session.wirings trace = [] ∧ result = .ok (decisions.head?.getD .run) ∧
      last = first := by
  rw [askController, Flow.ends_get_bind] at h
  cases hcontroller : first.config.bind (·.controller) with
  | some controller =>
    rw [hcontroller] at h
    obtain ⟨strategy, rfl, rfl, rfl⟩ := Flow.ends_request.mp h
    exact ⟨[strategy], rfl, rfl, rfl, rfl⟩
  | none =>
    rw [hcontroller] at h
    obtain ⟨rfl, rfl, rfl⟩ := Flow.ends_pure.mp h
    exact ⟨[], rfl, rfl, rfl, rfl⟩

/-- Filing the default device changes nothing but the context. -/
theorem attachDefaultDevice_eq (module : Module) :
    ∃ context, module.attachDefaultDevice = { module with context } := by
  unfold attachDefaultDevice
  split
  · exact ⟨_, rfl⟩
  · exact ⟨_, rfl⟩

/-- What is filed in the context does not depend on the lifecycle and the strategy. -/
theorem attachDefaultDevice_with (module : Module) (lifecycle : Lifecycle ModuleState)
    (strategy : RunStrategy) :
    attachDefaultDevice { module with lifecycle, strategy } =
      { module.attachDefaultDevice with lifecycle, strategy } := by
  unfold attachDefaultDevice
  split
  · rfl
  · rfl

/-- The default device does not change the name of a module. -/
theorem id_attachDefaultDevice (module : Module) : module.attachDefaultDevice.id = module.id := by
  obtain ⟨context, hcontext⟩ := module.attachDefaultDevice_eq
  rw [hcontext]

/-- The default device does not change the tests of a module. -/
theorem tests_attachDefaultDevice (module : Module) :
    module.attachDefaultDevice.tests = module.tests := by
  obtain ⟨context, hcontext⟩ := module.attachDefaultDevice_eq
  rw [hcontext]

private theorem Fresh.attachDefaultDevice {module : Module} (h : module.Fresh) :
    module.attachDefaultDevice.Fresh := by
  obtain ⟨context, hcontext⟩ := module.attachDefaultDevice_eq
  rw [hcontext]
  exact ⟨h.result, h.prepared, h.preparedMulti⟩

/-- A first run that is not bypassed takes a course. -/
theorem ends_run {module : Module} {result : Exit}
    (h : (run conducts).Ends module trace result last) (hfresh : module.Fresh)
    (hgoesOn : ∀ strategy, .decided strategy ∈ Session.deeds trace → strategy ≠ .fullModuleBypass)
    (horderly : Session.Orderly trace) (hunits : ∀ unit ∈ module.tests, (conducts unit).Orderly) :
    ∃ course : Course E, last.strategy = course.decisions.head?.getD .run ∧
      course.Follows conducts module.attachDefaultDevice trace result last := by
  rw [run] at h
  obtain ⟨startedAt, rest, rfl, hstarted⟩ := Flow.ends_request_bind.mp h
  obtain ⟨moved, later, lifecycle, rfl, hmoved, hmodified⟩ := ends_transition_bind hstarted
  rw [Flow.ends_modify_bind] at hmodified
  rcases Flow.ends_bind.mp hmodified with
    ⟨thrown, hthrown, -⟩ | ⟨strategy, before, after, mid, rfl, hasked, hdecided⟩
  · obtain ⟨_, -, -, hnot, -⟩ := ends_askController hthrown
    cases hnot
  · obtain ⟨decisions, hdecisions, hunwired, hstrategy, rfl⟩ := ends_askController hasked
    obtain rfl := Except.ok.inj hstrategy
    rw [Flow.ends_modify_bind] at hdecided
    have hdeeds : Session.deeds (⟨.inl .clock, startedAt⟩ :: (moved ++ (before ++ after))) =
        decisions.map .decided ++ Session.deeds after := by
      rw [Session.deeds_request, Session.deeds_append, hmoved.deeds, Session.deeds_append,
        hdecisions]
      rfl
    -- Both decisions that are left lead to the phases, one of them past a log line.
    have hcarriesOn : decisions.head?.getD .run ≠ .fullModuleBypass := by
      cases decisions with
      | nil => simp
      | cons strategy others =>
        refine hgoesOn strategy ?_
        rw [hdeeds]
        exact List.mem_cons_self
    obtain ⟨skipped, phases, rfl, hskipped, hphases⟩ :
        ∃ skipped phases, after = skipped ++ phases ∧ Session.Idling skipped ∧
          (runPhases conducts startedAt).Ends
            { module.attachDefaultDevice with lifecycle, strategy := decisions.head?.getD .run }
            phases result last := by
      rw [← attachDefaultDevice_with]
      cases hstrategy : decisions.head?.getD .run with
      | fullModuleBypass => exact absurd hstrategy hcarriesOn
      | skipModuleTestcases =>
        rw [hstrategy] at hdecided
        obtain ⟨skipped, phases, rfl, hskipped, hphases⟩ := ends_log_bind hdecided
        exact ⟨skipped, phases, rfl, hskipped, hphases⟩
      | run =>
        rw [hstrategy] at hdecided
        exact ⟨[], after, rfl, Session.idling_nil, hdecided⟩
    obtain ⟨-, hphasesOrderly⟩ := Session.orderly_append.mp
      (Session.orderly_append.mp (Session.orderly_append.mp
        (Session.orderly_cons.mp horderly).2).2).2
    obtain ⟨hresult, hprepared, hpreparedMulti⟩ := hfresh.attachDefaultDevice
    obtain ⟨course, hnone, hstrategy, hcourse⟩ :=
      ends_runPhases hphases ⟨hresult, hprepared, hpreparedMulti⟩ hphasesOrderly
        (by simpa [tests_attachDefaultDevice] using hunits)
    refine ⟨{ course with decisions }, hstrategy,
      ⟨?_, hcourse.plays, hcourse.genuine, hcourse.relays⟩, ?_, hcourse.prepares, hcourse.tidies,
      hcourse.told, hcourse.recorded, hcourse.reports, hcourse.result⟩
    · rw [hdeeds, Session.deeds_append, hskipped.deeds, hcourse.deeds]
      simp [Course.deeds, hnone]
    · rw [Session.wirings_request]
      simp [Request.wiring?, hmoved.wirings, hunwired, hskipped.wirings, hcourse.wirings]

end Module

namespace Course.Follows

variable {conducts : Conducts E} {ready last : Module} {course : Course E}
  {trace : List (Session.Exchange (World E))} {result : Exit}

/-- What the run returns is decided by what failed. -/
theorem outcome_eq (h : course.Follows conducts ready trace result last) {outcome : Outcome}
    (hreturned : result = .ok outcome) :
    outcome = Module.outcomeOf (course.failure ready) course.untidied := by
  rw [h.result] at hreturned
  cases hreport : Sending.comesTo course.report with
  | error thrown =>
    rw [hreport] at hreturned
    cases hreturned
  | ok =>
    rw [hreport] at hreturned
    exact (Except.ok.inj hreturned).symm

/-- In a calm conversation the listener takes the whole report. -/
theorem reported_of_calm (h : course.Follows conducts ready trace result last)
    (hcalm : Session.Calm trace) : course.report.findSome? Sending.thrown? = none := by
  rw [List.findSome?_eq_none_iff]
  intro sending hsending
  have hdeed : .sent 0 sending ∈ Session.deeds trace := by
    rw [h.deeds, Course.deeds]
    exact List.mem_append_right _ (List.mem_map_of_mem hsending)
  rw [Sending.thrown?, Session.taken_of_calm hcalm hdeed]

/-- In a calm conversation the run returns. -/
theorem returns_of_calm (h : course.Follows conducts ready trace result last)
    (hcalm : Session.Calm trace) :
    result = .ok (Module.outcomeOf (course.failure ready) course.untidied) := by
  rw [h.result, Sending.comesTo, h.reported_of_calm hcalm]
  rfl

end Course.Follows

end Fleet
