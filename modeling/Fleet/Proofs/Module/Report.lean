import Fleet.Proofs.Module.Results
import Fleet.Proofs.Module.Staged

/-!
# The report of a module

Units may say what they like, in any order, and may fail in the middle of it: what the listener
hears of a module is the logs of its units, then a single well-formed run.
-/

namespace Fleet

variable {E : Interface}

/-- The events that tell of one case: it starts, has one verdict at most, and ends. -/
inductive CaseBlock (test : TestDescription) : List Event → Prop where
  | open (metrics : Metrics) : CaseBlock test [.testStarted test, .testEnded test metrics]
  | failed (trace : String) (metrics : Metrics) :
      CaseBlock test [.testStarted test, .testFailed test trace, .testEnded test metrics]
  | ignored (metrics : Metrics) :
      CaseBlock test [.testStarted test, .testIgnored test, .testEnded test metrics]

/-- The events that tell of several cases, one after the other. -/
inductive CaseBlocks : List TestDescription → List Event → Prop where
  | nil : CaseBlocks [] []
  | cons {test : TestDescription} {tests : List TestDescription} {now later : List Event}
      (h : CaseBlock test now) (rest : CaseBlocks tests later) :
      CaseBlocks (test :: tests) (now ++ later)

/-- The events that tell of one run: it starts with a count, its cases follow, it may fail once, and
it ends. -/
inductive RunBlock (id : String) (count : Nat) (tests : List TestDescription) :
    List Event → Prop where
  | intact {cases : List Event} {elapsed : Int} {metrics : Metrics} (h : CaseBlocks tests cases) :
      RunBlock id count tests (.runStarted id count :: cases ++ [.runEnded elapsed metrics])
  | failed {cases : List Event} {message : String} {elapsed : Int} {metrics : Metrics}
      (h : CaseBlocks tests cases) :
      RunBlock id count tests
        (.runStarted id count :: cases ++ [.runFailed message] ++ [.runEnded elapsed metrics])

namespace RunResult

private theorem caseBlock_caseEvents (case : TestCase) : CaseBlock case.test (caseEvents case) := by
  unfold caseEvents
  cases case.status with
  | incomplete | passed => exact .open case.metrics
  | failed => exact .failed case.trace case.metrics
  | ignored => exact .ignored case.metrics

private theorem caseBlocks_caseEvents (cases : List TestCase) :
    CaseBlocks (cases.map (·.test)) (cases.flatMap caseEvents) := by
  induction cases with
  | nil => exact .nil
  | cons case rest ih => exact .cons (caseBlock_caseEvents case) ih

/-- Whatever was recorded, it is replayed as one run. -/
theorem runBlock_replay (result : RunResult) (id : String) (elapsed : Int) :
    RunBlock id (max result.expected result.tests.length) (result.tests.map (·.test))
      (result.replay id elapsed) := by
  have hcases := caseBlocks_caseEvents result.tests
  have hcount : (max (result.expected : Int) result.numTests) =
      (max result.expected result.tests.length : Nat) := by
    rw [numTests]
    omega
  rw [replay, hcount]
  cases result.isFailure with
  | false =>
    rw [if_neg Bool.false_ne_true, List.append_nil]
    exact RunBlock.intact hcases
  | true => exact RunBlock.failed hcases

end RunResult

private theorem Relayed.isLog {saver : Option Nat} {sending : Sending} {deeds : List (Deed E)}
    (h : Relayed saver sending deeds) {event : Event}
    (hevent : event ∈ deeds.filterMap Deed.sent?) : event.isLog = true := by
  cases h with
  | recorded | refused => simp [Deed.sent?] at hevent
  | raw | stored | passed =>
    simp [Deed.sent?] at hevent
    subst hevent
    rfl

/-- Only logs get through while units run. -/
theorem Relays.isLog {saver : Option Nat} {played : List (Session.Exchange (stage.sum E))}
    {deeds : List (Deed E)} (h : Relays saver played deeds) {event : Event}
    (hevent : event ∈ deeds.filterMap Deed.sent?) : event.isLog = true := by
  induction h with
  | done => simp at hevent
  | sent hrelayed _ ih =>
    rw [List.filterMap_append] at hevent
    rcases List.mem_append.mp hevent with hnow | hlater
    · exact hrelayed.isLog hnow
    · exact ih hlater
  | wrapped _ ih => exact ih hevent
  | errand _ ih => exact ih (by simpa [Deed.sent?] using hevent)

namespace Course

variable {conducts : Conducts E} {ready : Module} {course : Course E}
  {trace : List (Session.Exchange (World E))}

/-- The number of tests the course announces: those its units announced, and one more for a failure
outside of them. -/
def announced (course : Course E) (ready : Module) : Nat :=
  ((course.runs.flatMap UnitRun.told).map Event.announced).sum +
    (course.synthetic ready).toList.length

/-- The results expect as many tests as are announced in the course. -/
theorem expected_recorded (course : Course E) (ready : Module) (skip : Bool) :
    (course.recorded ready skip).expected = course.announced ready := by
  unfold recorded announced
  cases course.synthetic ready with
  | none => simp [RunResult.expected_afterRuns]
  | some synthetic =>
    simp [RunResult.expected_afterSynthetic, RunResult.expected_afterRuns]

/-- What the listener hears in a course is what gets through while units run, then the report. -/
theorem Tells.sent (h : course.Tells conducts ready trace) :
    Session.sent trace =
      course.traffic.filterMap Deed.sent? ++ course.report.map Sending.event := by
  have hsilent {α : Type} (items : List α) :
      items.filterMap (fun _ => (none : Option Event)) = [] :=
    List.filterMap_eq_nil_iff.mpr fun _ _ => rfl
  rw [Session.sent, h.deeds, Course.deeds]
  simp [hsilent, List.filterMap_append, List.filterMap_map, Function.comp_def, Deed.sent?]

end Course

namespace Module

variable {conducts : Conducts E} {module last : Module}
  {trace : List (Session.Exchange (World E))} {result : Exit}

/-- The report of a module: whatever its units tell and however they and all calls end, the listener
hears what gets through of the units' logs, then one run under the name of the module. It tells of
each case that was recorded, and announces as many tests as the units did and failures outside of
them add, but no less than there are cases. -/
theorem reports_one_run (h : (run conducts).Ends module trace result last)
    (hfresh : module.Fresh)
    (hgoesOn : ∀ strategy, .decided strategy ∈ Session.deeds trace → strategy ≠ .fullModuleBypass)
    (hcalm : Session.Calm trace) (horderly : Session.Orderly trace)
    (hunits : ∀ unit ∈ module.tests, (conducts unit).Orderly) :
    ∃ course : Course E, course.Tells conducts module.attachDefaultDevice trace ∧
      (∃ outcome, result = .ok outcome) ∧
      ∃ block, Session.sent trace = course.traffic.filterMap Deed.sent? ++ block ∧
        (∀ event ∈ course.traffic.filterMap Deed.sent?, event.isLog = true) ∧
        let cases := (course.recorded module.attachDefaultDevice course.skips).tests
        RunBlock module.id (max (course.announced module.attachDefaultDevice) cases.length)
          (cases.map (·.test)) block := by
  obtain ⟨course, hstrategy, hcourse⟩ := ends_run h hfresh hgoesOn horderly hunits
  obtain ⟨elapsed, hreport⟩ := hcourse.reports
  have hskips : last.skipsTests = course.skips := by rw [skipsTests, hstrategy, Course.skips]
  refine ⟨course, hcourse.toTells, ⟨_, hcourse.returns_of_calm hcalm⟩, _, hcourse.toTells.sent,
    fun _ => hcourse.relays.isLog, ?_⟩
  rw [hreport.map_eq (hcourse.reported_of_calm hcalm), id_attachDefaultDevice, ← hskips,
    ← course.expected_recorded _ last.skipsTests, ← hcourse.recorded]
  exact last.result.runBlock_replay module.id elapsed

/-- A unit that ends a test it never started, starts one twice, logs in between and then throws. -/
def unruly : Conduct E :=
  .telling [.testEnded { className := "suite", testName := "boot" } .empty, .runStarted "unit" 2,
      .testStarted { className := "suite", testName := "call" },
      .testLog "radio" .text "no carrier",
      .runStarted "unit" 1, .testStarted { className := "suite", testName := "call" }]
    (.error (.standard "abort"))

/-- One preparer fails to clean up; still one run is reported. -/
theorem reports_one_run_suite :
    let conducts : Conducts .silent := fun _ => unruly
    let tearDowns := failingAt "wifi" (.targetSetup "no network")
    let (trace, exit, _) := suite.staged conducts (fun _ => .ok (.ok ())) tearDowns
    ∃ course : Course .silent, course.Tells conducts suite.attachDefaultDevice trace ∧
      (∃ outcome, exit = .ok outcome) ∧
      ∃ block, Session.sent trace = course.traffic.filterMap Deed.sent? ++ block ∧
        (∀ event ∈ course.traffic.filterMap Deed.sent?, event.isLog = true) ∧
        let cases := (course.recorded suite.attachDefaultDevice course.skips).tests
        RunBlock suite.id (max (course.announced suite.attachDefaultDevice) cases.length)
          (cases.map (·.test)) block :=
  reports_one_run (ends_staged _ _ _ _) fresh_suite
    (fun _ h => by rw [decided_staged _ _ _ _ h]; nofun) (calm_staged _ _ _ _)
    (orderly_staged _ _ _ _ nofun nofun) (fun _ _ => Conduct.orderly_telling nofun)

end Module

end Fleet
