import Fleet.Proofs.Module.Verdicts
import Mathlib.Data.List.Induction

/-!
# What units tell is what is replayed

A case that failed stays failed, whatever is told later, so no failure is lost in the replay. If the
units tell of their tests one after the other, the cases are those they told of, in order; and a
measurement of the run is the first one that any unit gave.
-/

namespace Fleet

variable {E : Interface}

/-- The measurement of this name that comes with the end of a run. -/
def Event.measured? (key : String) : Event → Option String
  | .runEnded _ metrics => metrics.get? key
  | _ => none

/-- What a unit says about a test between its start and its end. -/
inductive Verdict where
  | failed (trace : String)
  | ignored
  deriving DecidableEq

/-- One test as a unit tells of it: it starts, is said to fail or to be ignored any number of times,
and ends. -/
structure TestBlock where
  test : TestDescription
  verdicts : List Verdict := []
  metrics : Metrics := .empty

namespace Verdict

/-- The event that tells of a verdict. -/
def event (test : TestDescription) : Verdict → Event
  | failed trace => .testFailed test trace
  | ignored => .testIgnored test

/-- Why the test failed, if it did. -/
def trace? : Verdict → Option String
  | failed trace => some trace
  | ignored => none

end Verdict

namespace TestBlock

/-- The events that tell of a test. -/
def events (block : TestBlock) : List Event :=
  .testStarted block.test :: block.verdicts.map (Verdict.event block.test) ++
    [.testEnded block.test block.metrics]

/-- Why the test failed, each time it did. -/
def failures (block : TestBlock) : List String :=
  block.verdicts.filterMap Verdict.trace?

/-- What becomes of the test: it failed if it ever did, else it was ignored if it ever was, else it
passed. -/
def status (block : TestBlock) : TestStatus :=
  if block.failures ≠ [] then .failed
  else if .ignored ∈ block.verdicts then .ignored
  else .passed

/-- What a verdict makes of the case of a test. -/
def judge (case : TestCase) : Verdict → TestCase
  | .failed trace => { case with status := .failed, trace }
  | .ignored => { case with status := RunResult.ignoredStatus case.status }

/-- The case to be recorded for the test. -/
def case (block : TestBlock) : TestCase where
  test := block.test
  status := block.status
  trace := block.failures.getLast?.getD ""
  metrics := block.metrics

/-- The events that tell of the test in the end: of all verdicts one is left, the last failure if
there is one. -/
def replayed (block : TestBlock) : List Event :=
  let verdict : List Event :=
    match block.failures.getLast? with
    | some trace => [.testFailed block.test trace]
    | none => if .ignored ∈ block.verdicts then [.testIgnored block.test] else []
  .testStarted block.test :: verdict ++ [.testEnded block.test block.metrics]

private theorem caseEvents_case (block : TestBlock) :
    RunResult.caseEvents block.case = block.replayed := by
  unfold RunResult.caseEvents replayed case status
  cases hlast : block.failures.getLast? with
  | some trace =>
    have hfailed : block.failures ≠ [] := by
      rintro hnone
      simp [hnone] at hlast
    simp [hfailed]
  | none =>
    have hnone : block.failures = [] := List.getLast?_eq_none_iff.mp hlast
    by_cases hignored : .ignored ∈ block.verdicts <;> simp [hnone, hignored]

end TestBlock

/-- The unit returned, and told of these tests, one after the other. -/
structure UnitRun.TellsInBlocks (run : UnitRun E) (blocks : List TestBlock) : Prop where
  returned : run.exit = .ok (.ok ())
  told : run.told.filter Event.isCase = blocks.flatMap TestBlock.events

namespace RunResult

/-- Of a replay, what is about single cases. -/
theorem filter_isCase_replay (result : RunResult) (run : String) (elapsedMs : Int) :
    (result.replay run elapsedMs).filter Event.isCase = result.tests.flatMap caseEvents := by
  have hcases : (result.tests.flatMap caseEvents).filter Event.isCase =
      result.tests.flatMap caseEvents := by
    simp only [List.filter_flatMap, List.filter_eq_self.mpr isCase_caseEvents]
  have hopening (announced : Int) : Event.isCase (.runStarted run announced) = false := rfl
  have hfailure : (if result.isFailure then [Event.runFailed result.failureMessage]
      else []).filter Event.isCase = [] := by
    split <;> rfl
  have hclosing : [Event.runEnded elapsedMs result.metrics].filter Event.isCase = [] := rfl
  simp [replay, hopening, hcases, hfailure, hclosing]

variable {result other : RunResult} {test : TestDescription} {f : TestCase → TestCase}
  {place : Nat} {event : Event} {events : List Event} {case : TestCase} {cases : List TestCase}

section Failed

/-- The case at a place is one of this test, which failed. -/
def FailedAt (result : RunResult) (place : Nat) (test : TestDescription) : Prop :=
  ∃ case, result.tests[place]? = some case ∧ case.test = test ∧ case.status = .failed

private theorem lasting_failed (test : TestDescription) :
    Lasting false fun case => case.test = test ∧ case.status = .failed where
  ignored case hfailed := ⟨hfailed.1, by simp [hfailed.2, ignoredStatus]⟩
  ended case _ hfailed := ⟨hfailed.1, by simp [hfailed.2]⟩
  failed _ _ _ hfailed := ⟨hfailed.1, rfl⟩
  interrupted _ _ _ hfailed := ⟨hfailed.1, rfl⟩

private theorem test_of_latest {tests : List TestCase} (h : latest tests test = some place) :
    ∃ case, tests[place]? = some case ∧ case.test = test := by
  obtain ⟨back, hback, rfl⟩ := Option.map_eq_some_iff.mp h
  obtain ⟨hlength, htest, -⟩ := List.findIdx?_eq_some_iff_getElem.mp hback
  rw [List.getElem_reverse, decide_eq_true_eq] at htest
  exact ⟨_, List.getElem?_eq_getElem _, htest⟩

private theorem test_of_locate (h : result.locate test = some place) :
    ∃ case, result.tests[place]? = some case ∧ case.test = test := by
  rw [locate] at h
  split at h
  · rename_i hopen
    rw [isOpen, h] at hopen
    simpa [Option.any_eq_true] using hopen
  · exact test_of_latest h

/-- The case an event about a test concerns is one of this test. -/
theorem test_placeOf (result : RunResult) (test : TestDescription) :
    ((result.tests[result.placeOf test]?).getD { test }).test = test := by
  unfold placeOf
  cases hlocated : result.locate test with
  | none => simp
  | some place =>
    obtain ⟨case, hcase, htest⟩ := test_of_locate hlocated
    simp [hcase, htest]

private theorem failedAt_testFailed (result : RunResult) (test : TestDescription) (trace : String) :
    (result.testFailed test trace).FailedAt (result.placeOf test) test := by
  unfold FailedAt
  rw [testFailed, getElem?_update, if_pos rfl]
  exact ⟨_, rfl, test_placeOf result test, rfl⟩

/-- A case that failed stays failed, whatever is told. -/
theorem FailedAt.collectAll (h : result.FailedAt place test) :
    (result.collectAll false events).FailedAt place test :=
  CaseAt.collectAll (lasting_failed test) h events

/-- A failure that is told is recorded. -/
theorem failedAt_of_told {trace : String} (h : .testFailed test trace ∈ events) :
    ∃ place, (result.collectAll false events).FailedAt place test := by
  induction events generalizing result with
  | nil => cases h
  | cons event rest ih =>
    rcases List.mem_cons.mp h with rfl | h
    · have hnow : (Module.collect false result (.testFailed test trace)).FailedAt
          (result.placeOf test) test := failedAt_testFailed result test trace
      exact ⟨_, hnow.collectAll⟩
    · exact ih h

variable {run : UnitRun E} {runs : List (UnitRun E)}

private theorem failedAt_afterRun (h : (result.collectAll false run.told).FailedAt place test) :
    (result.afterRun false run).FailedAt place test :=
  CaseAt.of_collectAll (lasting_failed test) h

private theorem FailedAt.afterRuns (h : result.FailedAt place test) :
    (result.afterRuns false runs).FailedAt place test :=
  CaseAt.afterRuns (lasting_failed test) h runs

private theorem failedAt_of_told_in_runs {trace : String} (hrun : run ∈ runs)
    (h : .testFailed test trace ∈ run.told) :
    ∃ place, (result.afterRuns false runs).FailedAt place test := by
  induction runs generalizing result with
  | nil => cases hrun
  | cons first rest ih =>
    rcases List.mem_cons.mp hrun with rfl | hrun
    · obtain ⟨place, hplace⟩ : ∃ place, (result.collectAll false run.told).FailedAt place test :=
        failedAt_of_told h
      exact ⟨place, (failedAt_afterRun hplace).afterRuns⟩
    · exact ih hrun

private theorem FailedAt.afterSynthetic (h : result.FailedAt place test) (error : TaskError)
    (testName : String) : (result.afterSynthetic error testName).FailedAt place test :=
  CaseAt.afterSynthetic h error testName

end Failed

section Measured

variable {run : UnitRun E} {runs : List (UnitRun E)} {key : String}

private theorem metrics_update (result : RunResult) (test : TestDescription)
    (f : TestCase → TestCase) :
    (result.update test f).metrics = result.metrics := by
  unfold update
  split
  · rfl
  · rfl

private theorem metrics_testEnded (result : RunResult) (test : TestDescription)
    (metrics : Metrics) :
    (result.testEnded test metrics).metrics = result.metrics := by
  cases hopen : result.isOpen test <;> simp [testEnded, hopen, metrics_update]

/-- An event adds the measurement that comes with it, if there was none before. -/
theorem get?_collect (result : RunResult) (event : Event) (key : String) :
    (Module.collect false result event).metrics.get? key =
      (result.metrics.get? key).or (event.measured? key) := by
  cases event with
  | runEnded elapsed metrics => exact Dict.get?_union _ _ _
  | testEnded => simp [Module.collect, metrics_testEnded, Event.measured?]
  | _ =>
    simp [Module.collect, addExpected, testStarted, testFailed, testIgnored, runFailed,
      metrics_update, Event.measured?]

private theorem get?_collectAll (result : RunResult) (events : List Event) (key : String) :
    (result.collectAll false events).metrics.get? key =
      (result.metrics.get? key).or (events.findSome? (Event.measured? key)) := by
  induction events generalizing result with
  | nil => exact Option.or_none.symm
  | cons event rest ih =>
    have hstep : (result.collectAll false (event :: rest)).metrics.get? key =
        ((Module.collect false result event).metrics.get? key).or
          (rest.findSome? (Event.measured? key)) := ih _
    rw [hstep, get?_collect, Option.or_assoc, List.findSome?_cons]
    cases event.measured? key <;> rfl

private theorem metrics_afterFailure (result : RunResult) (error : TaskError) :
    (result.afterFailure false error).metrics = result.metrics := by
  unfold afterFailure failOpen closeOpen
  cases result.openCase <;> rfl

private theorem get?_afterRun (result : RunResult) (run : UnitRun E) (key : String) :
    (result.afterRun false run).metrics.get? key =
      (result.metrics.get? key).or (run.told.findSome? (Event.measured? key)) := by
  rw [afterRun]
  split
  · exact get?_collectAll _ _ _
  · rw [metrics_afterFailure, get?_collectAll]

/-- A measurement of the run is the first one that any unit gave. -/
theorem get?_afterRuns (result : RunResult) (runs : List (UnitRun E)) (key : String) :
    (result.afterRuns false runs).metrics.get? key =
      (result.metrics.get? key).or ((runs.flatMap (·.told)).findSome? (Event.measured? key)) := by
  induction runs generalizing result with
  | nil => exact Option.or_none.symm
  | cons run rest ih =>
    have hstep : (result.afterRuns false (run :: rest)).metrics.get? key = _ := ih _
    rw [hstep, get?_afterRun, Option.or_assoc, List.flatMap_cons, List.findSome?_append]

private theorem metrics_afterSynthetic (error : TaskError) (testName : String)
    (result : RunResult) :
    (result.afterSynthetic error testName).metrics = result.metrics := by
  simp [afterSynthetic, runFailed, metrics_testEnded, testFailed, metrics_update, testStarted,
    addExpected]

end Measured

section InBlocks

/-- Both results have the same cases, and the same one is open. -/
structure SameCases (result other : RunResult) : Prop where
  tests : result.tests = other.tests
  openCase : result.openCase = other.openCase

namespace SameCases

private theorem isOpen (h : result.SameCases other) : result.isOpen test = other.isOpen test := by
  rw [RunResult.isOpen, RunResult.isOpen, h.tests, h.openCase]

private theorem update (h : result.SameCases other) :
    (result.update test f).SameCases (other.update test f) := by
  have hlocate : result.locate test = other.locate test := by
    rw [locate, locate, h.isOpen, h.tests, h.openCase]
  unfold RunResult.update
  rw [hlocate]
  split
  · rename_i index _
    exact ⟨congrArg (List.modify · index f) h.tests, h.openCase⟩
  · exact ⟨congrArg (· ++ [f { test }]) h.tests, h.openCase⟩

private theorem collect (h : result.SameCases other) :
    (Module.collect false result event).SameCases (Module.collect false other event) := by
  cases event with
  | testStarted test =>
    refine ⟨congrArg (· ++ [({ test } : TestCase)]) h.tests, ?_⟩
    simp only [Module.collect, testStarted, h.tests, Bool.false_eq_true, if_false]
  | testFailed | testIgnored => exact h.update
  | testEnded test metrics =>
    let close (case : TestCase) : TestCase :=
      { case with
        status := if case.status = .incomplete then .passed else case.status
        metrics := case.metrics.union metrics }
    have hupdated : (result.update test close).SameCases (other.update test close) := h.update
    simp only [Module.collect, testEnded, h.isOpen]
    split
    · exact ⟨hupdated.tests, rfl⟩
    · exact hupdated
  | runStarted | runFailed | runEnded | testLog | logSaved => exact ⟨h.tests, h.openCase⟩

end SameCases

private theorem sameCases_of_not_isCase (h : event.isCase = false) :
    (Module.collect false result event).SameCases result := by
  cases event with
  | testStarted | testFailed | testIgnored | testEnded => cases h
  | runStarted | runFailed | runEnded | testLog | logSaved => exact ⟨rfl, rfl⟩

/-- What is not about a test case does not matter to the cases. -/
theorem sameCases_filter (h : result.SameCases other) (events : List Event) :
    (result.collectAll false events).SameCases
      (other.collectAll false (events.filter Event.isCase)) := by
  induction events generalizing result other with
  | nil => exact h
  | cons event rest ih =>
    cases hcase : event.isCase with
    | true =>
      rw [List.filter_cons_of_pos hcase]
      exact ih h.collect
    | false =>
      rw [List.filter_cons_of_neg (by simp [hcase])]
      have hsame : (Module.collect false result event).SameCases result :=
        sameCases_of_not_isCase hcase
      exact ih ⟨hsame.tests.trans h.tests, hsame.openCase.trans h.openCase⟩

/-- These are the cases, and the last one is open. -/
structure OpenAt (result : RunResult) (cases : List TestCase) (case : TestCase) : Prop where
  tests : result.tests = cases ++ [case]
  openCase : result.openCase = some cases.length

namespace OpenAt

private theorem isOpen (h : result.OpenAt cases case) (htest : case.test = test) :
    result.isOpen test = true := by
  simp [RunResult.isOpen, h.openCase, h.tests, htest]

/-- An event about the test of the open case changes this case. -/
theorem update (h : result.OpenAt cases case) (htest : case.test = test) :
    (result.update test f).OpenAt cases (f case) := by
  have hlocated : result.locate test = some cases.length := by
    rw [locate, h.isOpen htest, if_pos rfl, h.openCase]
  simp only [RunResult.update, hlocated]
  exact ⟨by rw [h.tests, modify_last], h.openCase⟩

private theorem testEnded (h : result.OpenAt cases case) (htest : case.test = test)
    (metrics : Metrics) :
    (result.testEnded test metrics).tests = cases ++
      [{ case with
          status := if case.status = .incomplete then .passed else case.status
          metrics := case.metrics.union metrics }] := by
  rw [tests_testEnded]
  exact (h.update htest).tests

/-- Verdicts about the test of the open case are given in this case. -/
theorem verdicts (h : result.OpenAt cases case) (htest : case.test = test)
    (verdicts : List Verdict) :
    (result.collectAll false (verdicts.map (Verdict.event test))).OpenAt cases
      (verdicts.foldl TestBlock.judge case) := by
  induction verdicts generalizing result case with
  | nil => exact h
  | cons verdict rest ih =>
    cases verdict with
    | failed trace => exact ih (h.update htest) htest
    | ignored => exact ih (h.update htest) htest

end OpenAt

/-- What the verdicts about a test come to. -/
theorem judged_eq (test : TestDescription) (verdicts : List Verdict) :
    verdicts.foldl TestBlock.judge { test } =
      { test
        status :=
          if verdicts.filterMap Verdict.trace? ≠ [] then .failed
          else if .ignored ∈ verdicts then .ignored
          else .incomplete
        trace := (verdicts.filterMap Verdict.trace?).getLast?.getD "" } := by
  induction verdicts using List.reverseRecOn with
  | nil => rfl
  | append_singleton verdicts verdict ih =>
    rw [List.foldl_append, ih]
    cases verdict with
    | failed trace => simp [TestBlock.judge, Verdict.trace?]
    | ignored =>
      have hnone : Verdict.trace? .ignored = none := rfl
      simp only [TestBlock.judge, List.foldl_cons, List.foldl_nil, List.filterMap_append,
        List.filterMap_cons_none hnone, List.filterMap_nil, List.append_nil]
      by_cases hfailed : verdicts.filterMap Verdict.trace? = []
      · by_cases hignored : .ignored ∈ verdicts <;> simp [hfailed, hignored, ignoredStatus]
      · simp [hfailed, ignoredStatus]

/-- A test that a unit tells of without a break adds its case. -/
theorem tests_block (result : RunResult) (block : TestBlock) :
    (result.collectAll false block.events).tests = result.tests ++ [block.case] := by
  have hopen : (result.testStarted block.test).OpenAt result.tests { test := block.test } :=
    ⟨rfl, rfl⟩
  have hjudged := hopen.verdicts rfl block.verdicts
  rw [judged_eq] at hjudged
  have hended := hjudged.testEnded rfl block.metrics
  have hevents : result.collectAll false block.events =
      ((result.testStarted block.test).collectAll false
        (block.verdicts.map (Verdict.event block.test))).testEnded block.test block.metrics := by
    simp [collectAll, TestBlock.events, Module.collect]
  rw [hevents, hended, Dict.empty_union]
  congr 2
  unfold TestBlock.case TestBlock.status TestBlock.failures
  by_cases hfailed : block.verdicts.filterMap Verdict.trace? = []
  · by_cases hignored : .ignored ∈ block.verdicts <;> simp [hfailed, hignored]
  · simp [hfailed]

private theorem tests_blocks (result : RunResult) (blocks : List TestBlock) :
    (result.collectAll false (blocks.flatMap TestBlock.events)).tests =
      result.tests ++ blocks.map TestBlock.case := by
  induction blocks generalizing result with
  | nil => exact (List.append_nil _).symm
  | cons block rest ih =>
    have hstep : result.collectAll false ((block :: rest).flatMap TestBlock.events) =
        (result.collectAll false block.events).collectAll false
          (rest.flatMap TestBlock.events) := by
      simp [collectAll]
    rw [hstep, ih, tests_block]
    simp

variable {run : UnitRun E} {runs : List (UnitRun E)}

private theorem tests_afterRun {blocks : List TestBlock} (h : run.TellsInBlocks blocks)
    (result : RunResult) :
    (result.afterRun false run).tests = result.tests ++ blocks.map TestBlock.case := by
  have hfailure : run.failure? = none := by
    rw [UnitRun.failure?, h.returned]
    rfl
  have hsame : (result.collectAll false run.told).SameCases
      (result.collectAll false (run.told.filter Event.isCase)) :=
    sameCases_filter ⟨rfl, rfl⟩ run.told
  simp only [afterRun, hfailure]
  rw [hsame.tests, h.told, tests_blocks]

/-- The cases of units that tell of their tests one after the other are those they told of. -/
theorem tests_afterRuns {blocks : UnitRun E → List TestBlock}
    (h : ∀ run ∈ runs, run.TellsInBlocks (blocks run)) (result : RunResult) :
    (result.afterRuns false runs).tests =
      result.tests ++ (runs.flatMap blocks).map TestBlock.case := by
  induction runs generalizing result with
  | nil => exact (List.append_nil _).symm
  | cons run rest ih =>
    obtain ⟨hrun, hrest⟩ := List.forall_mem_cons.mp h
    have hstep : (result.afterRuns false (run :: rest)).tests = _ := ih hrest _
    rw [hstep, tests_afterRun hrun]
    simp

end InBlocks

/-- Every case is replayed, its events one after the other. -/
theorem caseEvents_infix (h : result.tests[place]? = some case) (id : String) (elapsed : Int) :
    caseEvents case <:+: result.replay id elapsed := by
  obtain ⟨before, after, htests⟩ := List.append_of_mem (List.mem_of_getElem? h)
  have hreplayed : caseEvents case <:+: result.tests.flatMap caseEvents :=
    ⟨before.flatMap caseEvents, after.flatMap caseEvents, by simp [htests]⟩
  rw [replay]
  exact ((hreplayed.trans (List.suffix_cons _ _).isInfix).trans
    (List.prefix_append _ _).isInfix).trans (List.prefix_append _ _).isInfix

/-- A failed case is started, failed and ended. -/
theorem caseEvents_failed (h : case.status = .failed) :
    caseEvents case =
      [.testStarted case.test, .testFailed case.test case.trace,
        .testEnded case.test case.metrics] := by
  simp [caseEvents, h]

/-- A failed case is replayed as one. -/
theorem FailedAt.replayed (h : result.FailedAt place test) (id : String) (elapsed : Int) :
    ∃ trace metrics, [.testStarted test, .testFailed test trace, .testEnded test metrics] <:+:
      result.replay id elapsed := by
  obtain ⟨case, hcase, rfl, hfailed⟩ := h
  refine ⟨case.trace, case.metrics, ?_⟩
  rw [← caseEvents_failed hfailed]
  exact caseEvents_infix hcase id elapsed

end RunResult

namespace Course

variable {course : Course E} {ready : Module} {conducts : Conducts E}
  {trace : List (Session.Exchange (World E))} {test : TestDescription} {place : Nat}

/-- A failure that is recorded outside of units leaves the failures of the units as they are. -/
theorem failedAt_recorded
    (h : (RunResult.afterRuns false {} course.runs).FailedAt place test) :
    (course.recorded ready false).FailedAt place test := by
  unfold recorded
  cases course.synthetic ready with
  | none => exact h
  | some synthetic => exact h.afterSynthetic _ _

private theorem get?_recorded (key : String) :
    (course.recorded ready false).metrics.get? key =
      (course.runs.flatMap (·.told)).findSome? (Event.measured? key) := by
  have hruns : (course.recorded ready false).metrics =
      (RunResult.afterRuns false {} course.runs).metrics := by
    unfold recorded
    cases course.synthetic ready with
    | none => rfl
    | some synthetic => exact RunResult.metrics_afterSynthetic _ _ _
  rw [hruns, RunResult.get?_afterRuns]
  rfl

/-- If everything succeeds, only the units are recorded, and all of them ran. -/
theorem recorded_of_success {blocks : UnitRun E → List TestBlock}
    (htells : course.Tells conducts ready trace)
    (hblocks : ∀ run ∈ course.runs, run.TellsInBlocks (blocks run))
    (hprepared : ready.unprepared course.setUps = none) (htidied : course.untidied = none) :
    course.runs.map UnitRun.unit = ready.tests.filter ready.allows ∧
      (course.recorded ready false).tests = (course.runs.flatMap blocks).map TestBlock.case := by
  have hkept : course.runs.findSome? UnitRun.loss? = none := by
    refine List.findSome?_eq_none_iff.mpr fun run hrun => ?_
    rw [UnitRun.loss?, UnitRun.failure?, (hblocks run hrun).returned]
    rfl
  constructor
  · have hplays := htells.plays.map_eq hkept
    simpa [Module.plannedUnits, hprepared] using hplays
  · have hsynthetic : course.synthetic ready = none := by
      simp [synthetic, hprepared, hkept, htidied]
    rw [recorded, hsynthetic]
    exact RunResult.tests_afterRuns hblocks {}

end Course

namespace Module

variable {conducts : Conducts E} {module last : Module}
  {trace : List (Session.Exchange (World E))} {result : Exit}

/-- What the units of a module tell is what is replayed if test cases are not skipped. A test of
which a failure was told has a failed case, whatever else was told; each measurement of the run is
the first one a unit gave. If the units return and tell of their tests one after the other, and
everything is set up and cleaned up, then the cases are those the units told of, in order, and the
replay tells of each of them as its unit did, with one verdict. -/
theorem verdicts_replayed (h : (run conducts).Ends module trace result last)
    (hfresh : module.Fresh)
    (hruns : ∀ strategy, .decided strategy ∈ Session.deeds trace → strategy = .run)
    (horderly : Session.Orderly trace) (hunits : ∀ unit ∈ module.tests, (conducts unit).Orderly) :
    ∃ (course : Course E) (elapsed : Int),
      course.Tells conducts module.attachDefaultDevice trace ∧
      InTurn Sending.event Sending.thrown? (last.result.replay module.id elapsed)
        course.report ∧
      (∀ run ∈ course.runs, ∀ test trace, .testFailed test trace ∈ run.told →
        ∃ reason metrics,
          [.testStarted test, .testFailed test reason, .testEnded test metrics] <:+:
            last.result.replay module.id elapsed) ∧
      (∀ key, last.result.metrics.get? key =
        (course.runs.flatMap (·.told)).findSome? (Event.measured? key)) ∧
      ∀ blocks : UnitRun E → List TestBlock,
        (∀ run ∈ course.runs, run.TellsInBlocks (blocks run)) →
        module.attachDefaultDevice.unprepared course.setUps = none → course.untidied = none →
        course.runs.map UnitRun.unit =
            module.tests.filter module.attachDefaultDevice.allows ∧
          last.result.tests = (course.runs.flatMap blocks).map TestBlock.case ∧
          (last.result.replay module.id elapsed).filter Event.isCase =
            (course.runs.flatMap blocks).flatMap TestBlock.replayed := by
  obtain ⟨course, elapsed, hcourse, hrecorded, hreports⟩ :=
    follows_of_run h hfresh hruns horderly hunits
  refine ⟨course, elapsed, hcourse.toTells, hreports, ?_, ?_, ?_⟩
  · intro run hrun test reason htold
    obtain ⟨place, hplace⟩ :
        ∃ place, (RunResult.afterRuns false {} course.runs).FailedAt place test :=
      RunResult.failedAt_of_told_in_runs hrun htold
    have hfailed : (course.recorded module.attachDefaultDevice false).FailedAt place test :=
      Course.failedAt_recorded hplace
    rw [hrecorded]
    exact hfailed.replayed module.id elapsed
  · intro key
    rw [hrecorded, Course.get?_recorded]
  · intro blocks hblocks hprepared htidied
    rw [← tests_attachDefaultDevice]
    obtain ⟨hunits, htests⟩ :=
      Course.recorded_of_success hcourse.toTells hblocks hprepared htidied
    rw [← hrecorded] at htests
    refine ⟨hunits, htests, ?_⟩
    rw [RunResult.filter_isCase_replay, htests, List.flatMap_map]
    simp only [TestBlock.caseEvents_case]

end Module

/-- A unit that tells some events tells all of them if nothing is thrown at it. -/
theorem Conduct.told_telling {events : List Event} {exit ended : Exit}
    {received : List Dependency} {played : List (Session.Exchange (stage.sum E))}
    (h : ((Conduct.telling events exit).run received).Path played ended)
    (htaken : ∀ event answer, ⟨.inl (.send event), answer⟩ ∈ played → answer = .ok ()) :
    Performance.told played = events ∧ ended = exit := by
  obtain ⟨sent, before, after, rfl, hsent, hended⟩ := Session.path_seq.mp h
  obtain ⟨htold, rfl⟩ := Performance.told_sendAll hsent fun event answer hmem =>
    htaken event answer (List.mem_append_left _ hmem)
  obtain ⟨rfl, rfl⟩ := Session.path_pure.mp hended
  rw [List.append_nil]
  exact ⟨htold, rfl⟩

namespace Module

/-- A unit that tells of one test twice: it fails twice, being ignored in between, then passes. -/
def repeating : Conduct E :=
  .telling
    [.runStarted "unit" 2, .testStarted boot, .testFailed boot "first", .testIgnored boot,
      .testFailed boot "second", .testEnded boot .empty, .testStarted boot,
      .testEnded boot .empty, .runEnded 5 .empty] (.ok (.ok ()))
where
  boot : TestDescription := { className := "suite", testName := "boot" }

/-- The one unit repeats its test, and reports it in several ways. -/
theorem verdicts_replayed_suite :
    let conducts : Conducts .silent := fun _ => repeating
    let (trace, _, last) := suite.staged conducts (fun _ => .ok (.ok ())) fun _ => .ok (.ok ())
    let test : TestDescription := { className := "suite", testName := "boot" }
    ∃ course : Course .silent, course.Tells conducts suite.attachDefaultDevice trace ∧
      course.runs.map UnitRun.unit = suite.tests ∧
      last.result.tests = [{ test, status := .failed, trace := "second" },
        { test, status := .passed }] := by
  obtain ⟨course, elapsed, htells, -, -, -, hblocks⟩ :=
    verdicts_replayed (ends_staged suite (fun _ => repeating) (fun _ => .ok (.ok ()))
      fun _ => .ok (.ok ()))
      fresh_suite (fun _ h => decided_staged _ _ _ _ h) (orderly_staged _ _ _ _ nofun nofun)
      (fun _ _ => Conduct.orderly_telling nofun)
  have hrun : ∀ run ∈ course.runs, run.TellsInBlocks
      [⟨repeating.boot, [.failed "first", .ignored, .failed "second"], .empty⟩,
        ⟨repeating.boot, [], .empty⟩] := by
    intro run hrun
    obtain ⟨htold, hexit⟩ := Conduct.told_telling (htells.genuine run hrun).1
      fun _ _ hsent => htells.heard_of_calm (calm_staged _ _ _ _) hrun _ hsent
    exact ⟨hexit, by rw [UnitRun.told, htold]; rfl⟩
  have hprepared : suite.attachDefaultDevice.unprepared course.setUps = none := by
    have hsetUps : course.setUps.findSome? SetUp.failure? = none := by
      refine List.findSome?_eq_none_iff.mpr fun call hcall => ?_
      have hmade : .setUp call ∈ course.deeds := by
        rw [Course.deeds]
        simp [hcall]
      rw [← htells.deeds] at hmade
      rw [SetUp.failure?, setUp_staged suite _ _ _ hmade]
      rfl
    rw [unprepared, hsetUps]
    decide
  have htidied : course.untidied = none := by
    refine List.findSome?_eq_none_iff.mpr fun call hcall => ?_
    have hmade : .tornDown call ∈ course.deeds := by
      rw [Course.deeds]
      simp [hcall]
    rw [← htells.deeds] at hmade
    rw [TearDown.failure?, tornDown_staged suite _ _ _ hmade]
    rfl
  obtain ⟨hunits, htests, -⟩ := hblocks _ hrun hprepared htidied
  have hlength : course.runs.length = 1 :=
    (List.length_map UnitRun.unit).symm.trans (congrArg List.length hunits)
  obtain ⟨only, hruns⟩ := List.length_eq_one_iff.mp hlength
  refine ⟨course, htells, hunits, htests.trans ?_⟩
  rw [hruns]
  rfl

end Module

end Fleet
