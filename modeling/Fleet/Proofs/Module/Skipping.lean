import Fleet.Proofs.Module.Failures
import Fleet.Proofs.Module.Fidelity
import Fleet.Proofs.Module.Report
import Mathlib.Data.List.Forall2

/-!
# Skipped test cases

If the controller asks to skip the test cases, units still run and may say what they like: no
failure of theirs is reported. Every test they start becomes a case of its own, which is ignored
from the start and stays so. Only a lost device still ends the run.
-/

namespace Fleet

variable {E : Interface}

namespace Event

/-- The test an event starts. -/
def started? : Event → Option TestDescription
  | .testStarted test => some test
  | _ => none

/-- Whether the event tells of a failure. -/
def isFailure : Event → Bool
  | .testFailed .. | .runFailed _ => true
  | _ => false

end Event

namespace RunResult

variable {result : RunResult} {tests : List TestDescription} {places : List Nat}
  {f : TestCase → TestCase}

section Ignored

/-- The case is one of this test, which was ignored. -/
def IsIgnored (test : TestDescription) (case : TestCase) : Prop :=
  case.test = test ∧ case.status = .ignored

private theorem lasting_ignored (test : TestDescription) : Lasting true (IsIgnored test) where
  ignored case h := ⟨h.1, by simp [h.2, ignoredStatus]⟩
  ended case _ h := ⟨h.1, by simp [h.2]⟩
  failed := nofun
  interrupted := nofun

private theorem IsIgnored.caseEvents {test : TestDescription} {case : TestCase}
    (h : IsIgnored test case) :
    caseEvents case = [.testStarted test, .testIgnored test, .testEnded test case.metrics] := by
  obtain ⟨rfl, hstatus⟩ := h
  simp [RunResult.caseEvents, hstatus]

/-- Each of these tests has a case of its own, in this order, and was ignored. -/
structure Ignores (result : RunResult) (tests : List TestDescription) (places : List Nat) :
    Prop where
  inOrder : places.Pairwise (· < ·)
  cases : List.Forall₂ (fun test => CaseAt (IsIgnored test) result.tests) tests places

namespace Ignores

private theorem lt_length (h : result.Ignores tests places) {place : Nat}
    (hplace : place ∈ places) :
    place < result.tests.length := by
  have hinside : List.Forall₂ (fun place test =>
      place < result.tests.length ∧ CaseAt (IsIgnored test) result.tests place) places tests := by
    refine (h.cases.imp fun test place hcase => ?_).flip
    obtain ⟨case, hcase, hignored⟩ := hcase
    exact ⟨(List.getElem?_eq_some_iff.mp hcase).1, case, hcase, hignored⟩
  exact ((List.forall₂_and_left _ _).mp hinside).1 place hplace

/-- What was ignored stays ignored while test cases are skipped. -/
theorem mono {next : RunResult} (h : result.Ignores tests places)
    (hkept : ∀ test place, CaseAt (IsIgnored test) result.tests place →
      CaseAt (IsIgnored test) next.tests place) : next.Ignores tests places :=
  ⟨h.inOrder, h.cases.imp hkept⟩

/-- A test that is started while test cases are skipped gets a case of its own, which is
ignored. -/
theorem testStarted (h : result.Ignores tests places) (started : TestDescription) :
    (Module.collect true result (.testStarted started)).Ignores (tests ++ [started])
      (places ++ [result.tests.length]) := by
  have hopen : (result.testStarted started).OpenAt result.tests { test := started } := ⟨rfl, rfl⟩
  have htests : (Module.collect true result (.testStarted started)).tests =
      result.tests ++ [{ test := started, status := .ignored }] :=
    (hopen.update rfl).tests
  have hkept := h.mono fun test place hcase =>
    hcase.collect (lasting_ignored test) (.testStarted started)
  refine ⟨List.pairwise_append.mpr ⟨h.inOrder, List.pairwise_singleton .., ?_⟩,
    List.rel_append hkept.cases (.cons ?_ .nil)⟩
  · intro place hplace last hlast
    obtain rfl := List.mem_singleton.mp hlast
    exact h.lt_length hplace
  · rw [htests]
    exact ⟨_, List.getElem?_concat_length, rfl, rfl⟩

private theorem collect (h : result.Ignores tests places) (event : Event) :
    ∃ places', (Module.collect true result event).Ignores (tests ++ event.started?.toList)
      places' := by
  have hkept := h.mono fun test place hcase => hcase.collect (lasting_ignored test) event
  cases event with
  | testStarted test => exact ⟨_, h.testStarted test⟩
  | _ => exact ⟨places, by simpa [Event.started?] using hkept⟩

private theorem collectAll (h : result.Ignores tests places) (events : List Event) :
    ∃ places', (result.collectAll true events).Ignores
      (tests ++ events.filterMap Event.started?) places' := by
  induction events generalizing result tests places with
  | nil => exact ⟨places, by simpa [RunResult.collectAll] using h⟩
  | cons event rest ih =>
    obtain ⟨places', hcollected⟩ := h.collect event
    obtain ⟨last, hlast⟩ := ih hcollected
    refine ⟨last, ?_⟩
    rw [List.append_assoc] at hlast
    cases hstarted : event.started? <;> simpa [RunResult.collectAll, hstarted] using hlast

/-- The tests a unit starts are ignored, however the unit ends. -/
theorem afterRun (h : result.Ignores tests places) (run : UnitRun E) :
    ∃ places', (result.afterRun true run).Ignores
      (tests ++ run.told.filterMap Event.started?) places' := by
  obtain ⟨places', hcollected⟩ := h.collectAll run.told
  exact ⟨places', hcollected.mono fun test place hcase =>
    hcase.of_collectAll (lasting_ignored test)⟩

private theorem afterRuns (h : result.Ignores tests places) (runs : List (UnitRun E)) :
    ∃ places', (result.afterRuns true runs).Ignores
      (tests ++ (runs.flatMap UnitRun.told).filterMap Event.started?) places' := by
  induction runs generalizing result tests places with
  | nil => exact ⟨places, by simpa [RunResult.afterRuns] using h⟩
  | cons run rest ih =>
    obtain ⟨places', hrun⟩ := h.afterRun run
    obtain ⟨last, hlast⟩ := ih hrun
    refine ⟨last, ?_⟩
    rw [List.flatMap_cons, List.filterMap_append, ← List.append_assoc]
    exact hlast

end Ignores

end Ignored

section Unfailed

/-- No case failed. -/
def Unfailed (result : RunResult) : Prop :=
  ∀ (place : Nat) (case : TestCase), result.tests[place]? = some case → case.status ≠ .failed

/-- Before a module runs no case failed. -/
theorem unfailed_empty : ({} : RunResult).Unfailed := by
  intro place case hcase
  cases hcase

namespace Unfailed

private theorem update (h : result.Unfailed) (test : TestDescription)
    (hf : ∀ case : TestCase, case.status ≠ .failed → (f case).status ≠ .failed) :
    (result.update test f).Unfailed := by
  intro place case hcase
  rw [getElem?_update] at hcase
  split at hcase
  · obtain rfl := Option.some.inj hcase
    refine hf _ ?_
    cases hbefore : result.tests[place]? with
    | none => nofun
    | some before => exact h place before hbefore
  · exact h place case hcase

private theorem ignoredStatus_ne {status : TestStatus} (h : status ≠ .failed) :
    ignoredStatus status ≠ .failed := by
  cases status <;> simp_all [ignoredStatus]

private theorem testIgnored (h : result.Unfailed) (test : TestDescription) :
    (result.testIgnored test).Unfailed :=
  h.update test fun _ => ignoredStatus_ne

/-- While test cases are skipped, no event makes a case fail. -/
theorem collect (h : result.Unfailed) (event : Event) :
    (Module.collect true result event).Unfailed := by
  cases event with
  | testStarted test =>
    refine testIgnored ?_ test
    intro place case hcase
    rcases List.mem_append.mp (List.mem_of_getElem? hcase) with hold | hnew
    · obtain ⟨index, hindex⟩ := List.mem_iff_getElem?.mp hold
      exact h index case hindex
    · obtain rfl := List.mem_singleton.mp hnew
      nofun
  | testIgnored test => exact h.testIgnored test
  | testEnded test metrics =>
    unfold Unfailed
    rw [Module.collect, tests_testEnded]
    refine h.update test fun case hcase => ?_
    dsimp only
    split
    · simp
    · exact hcase
  | runStarted | testFailed | runFailed | runEnded | testLog | logSaved => exact h

private theorem collectAll (h : result.Unfailed) (events : List Event) :
    (result.collectAll true events).Unfailed := by
  induction events generalizing result with
  | nil => exact h
  | cons event rest ih => exact ih (h.collect event)

/-- The failure of a unit makes no case fail either. -/
theorem afterFailure (h : result.Unfailed) (error : TaskError) :
    (result.afterFailure true error).Unfailed := by
  intro place case hcase
  simp only [RunResult.afterFailure, if_true, ignoreOpen, closeOpen] at hcase
  split at hcase
  · exact h place case hcase
  · rw [List.getElem?_modify] at hcase
    obtain ⟨before, hbefore, rfl⟩ := Option.map_eq_some_iff.mp hcase
    have hunfailed := h place before hbefore
    split
    · exact ignoredStatus_ne hunfailed
    · exact hunfailed

private theorem afterRuns (h : result.Unfailed) (runs : List (UnitRun E)) :
    (result.afterRuns true runs).Unfailed := by
  induction runs generalizing result with
  | nil => exact h
  | cons run rest ih =>
    refine ih ?_
    rw [afterRun]
    split
    · exact h.collectAll run.told
    · exact (h.collectAll run.told).afterFailure _

/-- Where no case and no run failed, none is replayed as failed. -/
theorem replay (h : result.Unfailed) (hnone : result.failures = []) (id : String)
    (elapsed : Int) : ∀ event ∈ result.replay id elapsed, event.isFailure = false := by
  have hcases : ∀ event ∈ result.tests.flatMap caseEvents, event.isFailure = false := by
    intro event hevent
    obtain ⟨case, hcase, hevent⟩ := List.mem_flatMap.mp hevent
    obtain ⟨place, hplace⟩ := List.mem_iff_getElem?.mp hcase
    have hunfailed := h place case hplace
    cases hstatus : case.status with
    | failed => exact absurd hstatus hunfailed
    | incomplete | passed =>
      simp only [caseEvents, hstatus, List.cons_append, List.nil_append,
        List.mem_cons, List.not_mem_nil, or_false] at hevent
      rcases hevent with rfl | rfl <;> rfl
    | ignored =>
      simp only [caseEvents, hstatus, List.cons_append, List.nil_append, List.mem_cons,
        List.not_mem_nil, or_false] at hevent
      rcases hevent with rfl | rfl | rfl <;> rfl
  have hsucceeds : result.isFailure = false := by simp [isFailure, hnone]
  intro event hevent
  simp only [RunResult.replay, hsucceeds, Bool.false_eq_true, if_false, List.append_nil] at hevent
  rcases List.mem_append.mp hevent with hbefore | hlast
  · rcases List.mem_cons.mp hbefore with rfl | hcase
    · rfl
    · exact hcases event hcase
  · obtain rfl := List.mem_singleton.mp hlast
    rfl

end Unfailed

end Unfailed

end RunResult

/-- Units decide nothing about the module they are part of. -/
theorem Relays.undecided {saver : Option Nat} {played : List (Session.Exchange (stage.sum E))}
    {deeds : List (Deed E)} (h : Relays saver played deeds) (strategy : RunStrategy) :
    .decided strategy ∉ deeds := by
  induction h with
  | done => exact List.not_mem_nil
  | sent hrelayed _ ih =>
    rw [List.mem_append]
    rintro (hnow | hlater)
    · cases hrelayed <;> simp at hnow
    · exact ih hlater
  | wrapped _ ih => exact ih
  | errand _ ih =>
    rw [List.mem_cons]
    rintro (⟨⟨⟩⟩ | hlater)
    exact ih hlater

namespace Course

variable {course : Course E} {conducts : Conducts E} {ready : Module}
  {trace : List (Session.Exchange (World E))}

/-- If the only decision there is asks to skip the test cases, they are skipped. -/
theorem Tells.skips_eq_true (h : course.Tells conducts ready trace)
    (hdecided : .decided .skipModuleTestcases ∈ Session.deeds trace)
    (honly : ∀ strategy, .decided strategy ∈ Session.deeds trace →
      strategy = .skipModuleTestcases) : course.skips = true := by
  have htraffic := h.relays.undecided .skipModuleTestcases
  rw [h.deeds, Course.deeds] at hdecided
  cases hdecisions : course.decisions with
  | nil => simp [hdecisions, htraffic] at hdecided
  | cons strategy others =>
    have hfirst : .decided strategy ∈ Session.deeds trace := by
      rw [h.deeds, Course.deeds, hdecisions]
      simp
    rw [skips, hdecisions, honly strategy hfirst]
    rfl

end Course

namespace Module

variable {conducts : Conducts E} {module last : Module}
  {trace : List (Session.Exchange (World E))} {result : Exit}

/-- What is reported of a run whose test cases are skipped, if everything is set up and cleaned up:
whatever the units tell and however they end, no test and no run is reported as failed. Each test
that a unit starts has a case of its own, in order, and this case starts, is ignored and ends. The
run announces what the units announce, but no less than there are cases. A unit that returns that
its device is lost is the last one that runs, and its error is returned; if none does, all of them
run and nothing is returned. -/
theorem skipped_without_failure (h : (run conducts).Ends module trace result last)
    (hfresh : module.Fresh)
    (hdecided : .decided .skipModuleTestcases ∈ Session.deeds trace)
    (honly : ∀ strategy, .decided strategy ∈ Session.deeds trace →
      strategy = .skipModuleTestcases)
    (horderly : Session.Orderly trace) (hunits : ∀ unit ∈ module.tests, (conducts unit).Orderly) :
    ∃ (course : Course E) (elapsed : Int),
      course.Tells conducts module.attachDefaultDevice trace ∧
      InTurn Sending.event Sending.thrown? (last.result.replay module.id elapsed)
        course.report ∧
      (module.attachDefaultDevice.unprepared course.setUps = none → course.untidied = none →
        let told := course.runs.flatMap UnitRun.told
        (∀ event ∈ last.result.replay module.id elapsed, event.isFailure = false) ∧
        last.result.replay module.id elapsed =
          .runStarted module.id ↑(max (told.map Event.announced).sum last.result.tests.length) ::
            last.result.tests.flatMap RunResult.caseEvents ++
              [.runEnded elapsed last.result.metrics] ∧
        (∃ places : List Nat, places.Pairwise (· < ·) ∧
          List.Forall₂ (fun test place => ∃ case, last.result.tests[place]? = some case ∧
            RunResult.caseEvents case =
              [.testStarted test, .testIgnored test, .testEnded test case.metrics])
            (told.filterMap Event.started?) places) ∧
        (∀ lost ∈ course.runs, ∀ error, lost.exit = .ok (.error error) →
          error.isDeviceLoss = true → ∃ earlier,
            course.CutShort module.attachDefaultDevice trace result earlier lost error ∧
            (Session.Calm trace → result = .ok (.error error))) ∧
        ((∀ run ∈ course.runs, ¬ run.exit.ReturnsLoss) →
          course.runs.map UnitRun.unit =
            module.tests.filter module.attachDefaultDevice.allows ∧
          (Session.Calm trace → result = .ok (.ok ())))) := by
  obtain ⟨course, hstrategy, hcourse⟩ := ends_run h hfresh
    (fun strategy hdecided => by rw [honly strategy hdecided]; nofun) horderly hunits
  have hskips : last.skipsTests = true := by
    rw [← hcourse.toTells.skips_eq_true hdecided honly, skipsTests, hstrategy, Course.skips]
  obtain ⟨elapsed, hreports⟩ := hcourse.reports
  rw [id_attachDefaultDevice] at hreports
  refine ⟨course, elapsed, hcourse.toTells, hreports, ?_⟩
  intro hprepared htidied told
  have hsynthetic : course.synthetic module.attachDefaultDevice = none := by
    unfold Course.synthetic
    rw [hprepared, htidied]
    cases course.runs.findSome? UnitRun.loss? <;> rfl
  have hfinal : last.result = .afterRuns true {} course.runs := by
    rw [hcourse.recorded, hskips, Course.recorded, hsynthetic]
  have hunfailed : last.result.Unfailed := hfinal ▸ RunResult.unfailed_empty.afterRuns course.runs
  have hnone : last.result.failures = [] := by
    rw [hfinal, RunResult.failures_afterRuns]
    rfl
  have hexpected : last.result.expected = (told.map Event.announced).sum := by
    rw [hcourse.recorded, Course.expected_recorded, Course.announced, hsynthetic]
    rfl
  have hbefore : ({} : RunResult).Ignores [] [] := ⟨.nil, .nil⟩
  obtain ⟨places, hignores⟩ := hbefore.afterRuns course.runs
  rw [← hfinal] at hignores
  refine ⟨hunfailed.replay hnone module.id elapsed, ?_, ⟨places, hignores.inOrder, ?_⟩, ?_, ?_⟩
  · have hcount : (max (last.result.expected : Int) last.result.numTests) =
        ↑(max (told.map Event.announced).sum last.result.tests.length) := by
      rw [hexpected, RunResult.numTests]
      omega
    have hsucceeds : last.result.isFailure = false := by simp [RunResult.isFailure, hnone]
    rw [RunResult.replay, hcount, hsucceeds, if_neg Bool.false_ne_true, List.append_nil]
  · refine hignores.cases.imp ?_
    rintro test place ⟨case, hcase, hignored⟩
    exact ⟨case, hcase, hignored.caseEvents⟩
  · intro lost hlost error hexit hloss
    obtain ⟨earlier, hcut⟩ := hcourse.cutShort hprepared hlost hexit hloss
    refine ⟨earlier, hcut, fun hcalm => ?_⟩
    rw [hcut.result, Sending.comesTo, hcourse.reported_of_calm hcalm]
    rfl
  · intro hkept
    have hall : course.runs.findSome? UnitRun.loss? = none := by
      refine List.findSome?_eq_none_iff.mpr fun run hrun => ?_
      cases hloss : run.loss? with
      | none => rfl
      | some error => exact absurd (UnitRun.loss?_iff.mp ⟨error, hloss⟩) (hkept run hrun)
    constructor
    · have hplays := hcourse.plays.map_eq hall
      simpa [plannedUnits, hprepared, tests_attachDefaultDevice] using hplays
    · intro hcalm
      rw [hcourse.returns_of_calm hcalm, Course.failure, hprepared, hall, htidied]
      rfl

/-- The answers of an outside that has the test cases skipped and where everything goes well. -/
def skipping : (question : Request) → question.Answer
  | .shouldRun .. => RunStrategy.skipModuleTestcases
  | question => question.obliging fun _ _ => true

/-- The suite with two units and a controller to ask. -/
def drill : Module :=
  { suite with
    tests := [.plain 0 "first" [], .plain 1 "second" []]
    config := some { name := "drill", description := "a drill", controller := some 0 } }

/-- A unit that fails a test, says that it failed, and throws in the middle of another test. -/
def misbehaving (_ : TestUnit) : Conduct .silent :=
  .telling [.runStarted "unit" 2, .testStarted boot, .testFailed boot "reset",
      .testEnded boot .empty, .runFailed "no carrier", .testStarted call]
    (.error (.standard "abort"))
where
  boot : TestDescription := { className := "suite", testName := "boot" }
  call : TestDescription := { className := "suite", testName := "call" }

/-- The conversation of the drill, and what becomes of the module in it. -/
def drilled : List (Session.Exchange (World .silent)) × (Exit × Module) :=
  ((run misbehaving).run.run drill).converse fun
    | .inl question => skipping question
    | .inr errand => Interface.silence errand

private theorem ends_drilled :
    (run misbehaving).Ends drill drilled.1 drilled.2.1 drilled.2.2 :=
  Session.path_converse _ _

/-- The only decision is to skip the test cases, and all calls succeed. -/
def Unhindered : Deed .silent → Prop
  | .decided strategy => strategy = .skipModuleTestcases
  | .setUp call => call.exit = .ok (.ok ())
  | .tornDown call => call.exit = .ok (.ok ())
  | _ => True

private theorem unhindered_drilled : ∀ deed ∈ Session.deeds drilled.1, Unhindered deed := by
  intro deed hdone
  obtain ⟨exchange, hexchange, hdeed⟩ := List.mem_filterMap.mp hdone
  refine Session.forall_mem_converse
    (P := fun exchange => exchange.deed? = some deed → Unhindered deed) ?_ _ exchange hexchange
    hdeed
  rintro (question | errand)
  · intro hdeed
    cases question <;> cases hdeed <;> trivial
  · cases errand

private theorem calm_drilled : Session.Calm drilled.1 := by
  refine Session.forall_mem_converse ?_ _
  rintro (question | errand)
  · cases question <;> first | rfl | trivial
  · cases errand

private theorem orderly_drilled : Session.Orderly drilled.1 := by
  refine Session.forall_mem_converse ?_ _
  rintro (question | errand)
  · cases question <;> first | rfl | trivial | exact nofun
  · cases errand

/-- Two units each report a failed test and a failed run and throw in a second test; all four tests
are ignored. -/
theorem skipped_without_failure_drill :
    let (trace, exit, last) := drilled
    ∃ (course : Course .silent) (elapsed : Int),
      course.Tells misbehaving drill.attachDefaultDevice trace ∧
      course.runs.map UnitRun.unit = drill.tests ∧
      exit = .ok (.ok ()) ∧
      (∀ event ∈ last.result.replay drill.id elapsed, event.isFailure = false) ∧
      ∃ places : List Nat, places.Pairwise (· < ·) ∧
        List.Forall₂ (fun test place => ∃ case, last.result.tests[place]? = some case ∧
          RunResult.caseEvents case =
            [.testStarted test, .testIgnored test, .testEnded test case.metrics])
          [misbehaving.boot, misbehaving.call, misbehaving.boot, misbehaving.call] places := by
  obtain ⟨course, elapsed, htells, -, hreported⟩ :=
    skipped_without_failure ends_drilled ⟨rfl, rfl, rfl⟩ (List.mem_of_getElem? (i := 0) rfl)
      (fun strategy hdecided => unhindered_drilled _ hdecided) orderly_drilled
      (fun _ _ => Conduct.orderly_telling nofun)
  have hruns : ∀ run ∈ course.runs, run.told =
      [.runStarted "unit" 2, .testStarted misbehaving.boot,
        .testFailed misbehaving.boot "reset", .testEnded misbehaving.boot .empty,
        .runFailed "no carrier", .testStarted misbehaving.call] ∧
      run.exit = .error (.standard "abort") := fun run hrun =>
    Conduct.told_telling (htells.genuine run hrun).1 fun _ _ hsent =>
      htells.heard_of_calm calm_drilled hrun _ hsent
  have hprepared : drill.attachDefaultDevice.unprepared course.setUps = none := by
    rw [unprepared, htells.setUps_succeed fun call hmade => unhindered_drilled _ hmade]
    decide
  have htidied : course.untidied = none :=
    htells.untidied_eq_none fun call hmade => unhindered_drilled _ hmade
  obtain ⟨hfailures, -, hcases, -, hall⟩ := hreported hprepared htidied
  obtain ⟨hunits, hreturned⟩ := hall fun run hrun => by
    rintro ⟨error, hexit, -⟩
    rw [(hruns run hrun).2] at hexit
    cases hexit
  have htold : (course.runs.flatMap UnitRun.told).filterMap Event.started? =
      [misbehaving.boot, misbehaving.call, misbehaving.boot, misbehaving.call] := by
    have hlength : course.runs.length = 2 :=
      (List.length_map UnitRun.unit).symm.trans (congrArg List.length hunits)
    obtain ⟨first, second, hboth⟩ := List.length_eq_two.mp hlength
    rw [hboth] at hruns ⊢
    rw [List.flatMap_cons, (hruns first (by simp)).1, List.flatMap_cons,
      (hruns second (by simp)).1]
    rfl
  rw [htold] at hcases
  exact ⟨course, elapsed, htells, hunits, hreturned calm_drilled, hfailures, hcases⟩

end Module

end Fleet
