import Fleet.Proofs.Module.Results
import Fleet.Proofs.Module.Staged

/-!
# Cases without a verdict

A case that is replayed without a verdict looks as if it passed. It did if a unit ended it. But a
case that its unit started and left, by starting another one or by returning without a failure, is
replayed in the same way.
-/

namespace Fleet

variable {E : Interface}

namespace RunResult

/-- A case is replayed without a verdict if it has none. -/
theorem caseEvents_eq_iff {case : TestCase} :
    caseEvents case = [.testStarted case.test, .testEnded case.test case.metrics] ↔
      ¬ case.HasVerdict := by
  unfold caseEvents TestCase.HasVerdict
  cases case.status <;> simp

end RunResult

namespace Course

variable {course : Course E} {ready : Module} {place : Nat} {case : TestCase}

/-- What is recorded outside of units has a verdict. -/
theorem case_of_recorded (h : (course.recorded ready false).tests[place]? = some case)
    (hverdict : ¬ case.HasVerdict) :
    (RunResult.afterRuns false {} course.runs).tests[place]? = some case := by
  unfold recorded at h
  cases hsynthetic : course.synthetic ready with
  | none =>
    rw [hsynthetic] at h
    exact h
  | some synthetic =>
    obtain ⟨error, testName⟩ := synthetic
    rw [hsynthetic] at h
    obtain ⟨added, hadded, htests⟩ := RunResult.tests_afterSynthetic error testName
      (RunResult.afterRuns false {} course.runs)
    rw [htests] at h
    by_cases hplace : place < (RunResult.afterRuns false {} course.runs).tests.length
    · rwa [List.getElem?_append_left hplace] at h
    · rw [List.getElem?_append_right (by omega)] at h
      obtain rfl := List.mem_singleton.mp (List.mem_of_getElem? h)
      exact absurd hadded hverdict

/-- A case without a verdict passed and was ended, or nothing is known about it, it was not ended
and its unit left it. -/
theorem ended_or_left (h : (course.recorded ready false).tests[place]? = some case)
    (hverdict : ¬ case.HasVerdict) :
    (case.status = .passed ∧ RunResult.EndedIn {} course.runs place) ∨
    (case.status = .incomplete ∧ ¬ RunResult.EndedIn {} course.runs place ∧
      RunResult.LeftIn {} course.runs place) := by
  have hplayed := case_of_recorded h hverdict
  cases hstatus : case.status with
  | failed => exact absurd (.inl hstatus) hverdict
  | ignored => exact absurd (.inr hstatus) hverdict
  | passed =>
    rcases RunResult.case_of_afterRuns hplayed hverdict with hbefore | hended | ⟨hnot, -⟩
    · cases hbefore
    · exact .inl ⟨rfl, hended⟩
    · rw [hstatus] at hnot
      cases hnot
  | incomplete =>
    have hunended : ¬ RunResult.EndedIn {} course.runs place := by
      intro hended
      exact hended.settled.ne_incomplete hplayed hstatus
    rcases RunResult.case_of_afterRuns hplayed hverdict with hbefore | hended | ⟨-, hleft⟩
    · cases hbefore
    · exact absurd hended hunended
    · exact .inr ⟨rfl, hunended, hleft⟩

/-- If nobody decides otherwise, no test cases are skipped. -/
theorem Tells.skips_eq_false {conducts : Conducts E} {trace : List (Session.Exchange (World E))}
    (h : course.Tells conducts ready trace)
    (hruns : ∀ strategy, .decided strategy ∈ Session.deeds trace → strategy = .run) :
    course.skips = false := by
  unfold Course.skips
  cases hdecisions : course.decisions with
  | nil => rfl
  | cons strategy others =>
    have hdecided : .decided strategy ∈ Session.deeds trace := by
      rw [h.deeds, Course.deeds, hdecisions]
      simp
    rw [hruns strategy hdecided]
    rfl

end Course

namespace Module

variable {conducts : Conducts E} {module last : Module}
  {trace : List (Session.Exchange (World E))} {result : Exit}

/-- A first run takes a course, all of which it records and reports if nobody decides to skip or to
bypass anything. -/
theorem follows_of_run (h : (run conducts).Ends module trace result last)
    (hfresh : module.Fresh)
    (hruns : ∀ strategy, .decided strategy ∈ Session.deeds trace → strategy = .run)
    (horderly : Session.Orderly trace) (hunits : ∀ unit ∈ module.tests, (conducts unit).Orderly) :
    ∃ (course : Course E) (elapsed : Int),
      course.Follows conducts module.attachDefaultDevice trace result last ∧
      last.result = course.recorded module.attachDefaultDevice false ∧
      InTurn Sending.event Sending.thrown? (last.result.replay module.id elapsed)
        course.report := by
  obtain ⟨course, hstrategy, hcourse⟩ := ends_run h hfresh
    (fun strategy hdecided => by rw [hruns strategy hdecided]; nofun) horderly hunits
  have hskips : last.skipsTests = false := by
    rw [← hcourse.toTells.skips_eq_false hruns, skipsTests, hstrategy, Course.skips]
  obtain ⟨elapsed, hreports⟩ := hcourse.reports
  rw [id_attachDefaultDevice] at hreports
  exact ⟨course, elapsed, hcourse, by rw [hcourse.recorded, hskips], hreports⟩

/-- What a case replayed without a verdict may be if test cases are not skipped: one that passed,
which a unit ended, or one of which nothing is known, which no unit ended and its own unit left. The
report is the replay of all that was recorded of the units. -/
theorem replayed_without_verdict (h : (run conducts).Ends module trace result last)
    (hfresh : module.Fresh)
    (hruns : ∀ strategy, .decided strategy ∈ Session.deeds trace → strategy = .run)
    (horderly : Session.Orderly trace) (hunits : ∀ unit ∈ module.tests, (conducts unit).Orderly) :
    ∃ course : Course E, course.Tells conducts module.attachDefaultDevice trace ∧
      last.result = course.recorded module.attachDefaultDevice false ∧
      (∃ elapsed, InTurn Sending.event Sending.thrown? (last.result.replay module.id elapsed)
        course.report) ∧
      ∀ place case, last.result.tests[place]? = some case →
        RunResult.caseEvents case =
          [.testStarted case.test, .testEnded case.test case.metrics] →
        (case.status = .passed ∧ RunResult.EndedIn {} course.runs place) ∨
        (case.status = .incomplete ∧ ¬ RunResult.EndedIn {} course.runs place ∧
          RunResult.LeftIn {} course.runs place) := by
  obtain ⟨course, elapsed, hcourse, hrecorded, hreports⟩ :=
    follows_of_run h hfresh hruns horderly hunits
  refine ⟨course, hcourse.toTells, hrecorded, ⟨elapsed, hreports⟩, ?_⟩
  intro place case hcase hplain
  rw [hrecorded] at hcase
  exact Course.ended_or_left hcase (RunResult.caseEvents_eq_iff.mp hplain)

/-- A unit that starts a test and returns. -/
def leaving : Conduct E :=
  .telling [.runStarted "unit" 1, .testStarted { className := "suite", testName := "boot" }]
    (.ok (.ok ()))

/-- The one unit starts a test and returns, so that its case is replayed without a verdict. -/
theorem replayed_without_verdict_suite :
    let conducts : Conducts .silent := fun _ => leaving
    let (trace, _, _) := suite.staged conducts (fun _ => .ok (.ok ())) fun _ => .ok (.ok ())
    ∃ course : Course .silent, course.Tells conducts suite.attachDefaultDevice trace ∧
      ¬ RunResult.EndedIn {} course.runs 0 ∧ RunResult.LeftIn {} course.runs 0 := by
  obtain ⟨course, htells, -, -, hcases⟩ :=
    replayed_without_verdict
      (ends_staged suite (fun _ => leaving) (fun _ => .ok (.ok ())) fun _ => .ok (.ok ()))
      fresh_suite (fun _ h => decided_staged _ _ _ _ h) (orderly_staged _ _ _ _ nofun nofun)
      (fun _ _ => Conduct.orderly_telling nofun)
  rcases hcases 0 _ rfl rfl with ⟨hpassed, -⟩ | ⟨-, hleft⟩
  · cases hpassed
  · exact ⟨course, htells, hleft⟩

/-- A test that its unit never ended is replayed as one that passed. -/
theorem left_case_replayed_as_passed :
    let conducts : Conducts .silent := fun _ => leaving
    let (trace, exit, _) := suite.staged conducts (fun _ => .ok (.ok ())) fun _ => .ok (.ok ())
    let test : TestDescription := { className := "suite", testName := "boot" }
    exit = .ok (.ok ()) ∧
      Session.sent trace = [.runStarted "suite" 1, .testStarted test, .testEnded test .empty,
        .runEnded 0 .empty] :=
  ⟨rfl, rfl⟩

end Module

end Fleet
