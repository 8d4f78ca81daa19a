import Fleet.Proofs.Module.Course
import Mathlib.Algebra.GroupWithZero.Nat

/-!
# What happens to the cases of a module

An event of a unit changes one case at most, the one it concerns, and adds one at most; the failure
of a unit changes the open case. No case disappears. So a property of cases that none of these
changes takes away lasts until the end of the run.
-/

namespace Fleet

/-- The case failed or was ignored. -/
def TestCase.HasVerdict (case : TestCase) : Prop :=
  case.status = .failed ∨ case.status = .ignored

/-- A case with a verdict is not incomplete. -/
theorem TestCase.HasVerdict.ne_incomplete {case : TestCase} (h : case.HasVerdict) :
    case.status ≠ .incomplete := by
  rcases h with h | h <;> simp [h]

namespace RunResult

variable {E : Interface} {result : RunResult} {test : TestDescription} {f : TestCase → TestCase}
  {place : Nat} {event : Event} {events : List Event} {skip : Bool}

/-- The place of the case an event about a test concerns: a new one if there is none yet. -/
def placeOf (result : RunResult) (test : TestDescription) : Nat :=
  (result.locate test).getD result.tests.length

private theorem lt_of_latest {tests : List TestCase} (h : latest tests test = some place) :
    place < tests.length := by
  obtain ⟨back, hback, rfl⟩ := Option.map_eq_some_iff.mp h
  obtain ⟨hlength, -⟩ := List.findIdx?_eq_some_iff_getElem.mp hback
  rw [List.length_reverse] at hlength
  omega

private theorem lt_of_locate (h : result.locate test = some place) :
    place < result.tests.length := by
  rw [locate] at h
  split at h
  · rename_i hopen
    rw [isOpen, h] at hopen
    refine Nat.lt_of_not_le fun hbeyond => ?_
    simp [List.getElem?_eq_none hbeyond] at hopen
  · exact lt_of_latest h

/-- An event about a test changes the case it concerns and no other one. -/
theorem getElem?_update (result : RunResult) (test : TestDescription) (f : TestCase → TestCase)
    (place : Nat) :
    (result.update test f).tests[place]? =
      if place = result.placeOf test then some (f ((result.tests[place]?).getD { test }))
      else result.tests[place]? := by
  unfold update placeOf
  cases hlocated : result.locate test with
  | none =>
    by_cases hplace : place = result.tests.length
    · simp [hplace]
    · rcases Nat.lt_or_gt_of_ne hplace with hold | hbeyond
      · simp [List.getElem?_append_left hold, hplace]
      · simp only [Option.getD_none, if_neg hplace]
        rw [List.getElem?_eq_none (by simp; omega), List.getElem?_eq_none (by omega)]
  | some index =>
    have hindex := lt_of_locate hlocated
    by_cases hplace : place = index
    · simp [hplace, hindex]
    · simp [hplace, Ne.symm hplace]

/-- To update a case leaves the open one open. -/
theorem openCase_update (result : RunResult) (test : TestDescription)
    (f : TestCase → TestCase) : (result.update test f).openCase = result.openCase := by
  unfold update
  split
  · rfl
  · rfl

private theorem length_le_update (result : RunResult) (test : TestDescription)
    (f : TestCase → TestCase) : result.tests.length ≤ (result.update test f).tests.length := by
  unfold update
  split
  · simp
  · simp

/-- The end of a test makes a pass of an incomplete case, and adds the metrics. -/
theorem tests_testEnded (result : RunResult) (test : TestDescription) (metrics : Metrics) :
    (result.testEnded test metrics).tests =
      (result.update test fun case =>
        { case with
          status := if case.status = .incomplete then .passed else case.status
          metrics := case.metrics.union metrics }).tests := by
  cases hopen : result.isOpen test <;> simp [testEnded, hopen]

/-- No event makes a case disappear. -/
theorem length_le_collect (skip : Bool) (result : RunResult) (event : Event) :
    result.tests.length ≤ (Module.collect skip result event).tests.length := by
  cases event with
  | testStarted test =>
    have hstarted : result.tests.length ≤ (result.testStarted test).tests.length := by
      simp [testStarted]
    cases skip with
    | false => exact hstarted
    | true => exact Nat.le_trans hstarted (length_le_update _ _ _)
  | testFailed test trace =>
    cases skip with
    | false => exact length_le_update _ _ _
    | true => exact Nat.le_refl _
  | testIgnored test => exact length_le_update _ _ _
  | testEnded test metrics =>
    rw [Module.collect, tests_testEnded]
    exact length_le_update _ _ _
  | runFailed message => cases skip <;> exact Nat.le_refl _
  | runStarted | runEnded | testLog | logSaved => exact Nat.le_refl _

private theorem length_closeOpen (result : RunResult) (f : TestCase → TestCase) :
    (result.closeOpen f).tests.length = result.tests.length := by
  unfold closeOpen
  split
  · rfl
  · exact List.length_modify _ _ _

/-- The failure of a unit adds no case. -/
theorem length_afterFailure (skip : Bool) (error : TaskError) (result : RunResult) :
    (result.afterFailure skip error).tests.length = result.tests.length := by
  cases skip with
  | false => exact length_closeOpen result _
  | true => exact length_closeOpen result _

/-- Runs are recorded one after the other. -/
theorem afterRuns_append (skip : Bool) (result : RunResult) (earlier later : List (UnitRun E)) :
    result.afterRuns skip (earlier ++ later) =
      (result.afterRuns skip earlier).afterRuns skip later :=
  List.foldl_append

/-- The last case of a list may be changed on its own. -/
theorem modify_last (cases : List TestCase) (case : TestCase) (f : TestCase → TestCase) :
    (cases ++ [case]).modify cases.length f = cases ++ [f case] := by
  induction cases <;> simp_all

/-- A failure outside of any unit adds a case, which failed. -/
theorem tests_afterSynthetic (error : TaskError) (testName : String) (result : RunResult) :
    ∃ case : TestCase, case.HasVerdict ∧
      (result.afterSynthetic error testName).tests = result.tests ++ [case] := by
  simp only [afterSynthetic, runFailed, tests_testEnded]
  simp only [testStarted, testFailed, update, locate, isOpen, addExpected,
    List.getElem?_concat_length, Option.any_some, decide_true, if_true, modify_last]
  exact ⟨_, .inl rfl, rfl⟩

section Lasting

variable {P : TestCase → Prop} {tests : List TestCase} {run : UnitRun E} {runs : List (UnitRun E)}

/-- There is a case with this property at the place. -/
def CaseAt (P : TestCase → Prop) (tests : List TestCase) (place : Nat) : Prop :=
  ∃ case, tests[place]? = some case ∧ P case

/-- No change of a case takes this property away. While test cases are skipped, none is ever
failed. -/
structure Lasting (skip : Bool) (P : TestCase → Prop) : Prop where
  ignored : ∀ case, P case → P { case with status := ignoredStatus case.status }
  ended : ∀ case metrics, P case → P { case with
    status := if case.status = .incomplete then .passed else case.status
    metrics := case.metrics.union metrics }
  failed : skip = false → ∀ case trace, P case → P { case with status := .failed, trace }
  interrupted : skip = false → ∀ case trace, P case →
    P { case with status := .failed, trace, interrupted := true }

namespace CaseAt

private theorem append (h : CaseAt P tests place) (added : List TestCase) :
    CaseAt P (tests ++ added) place := by
  obtain ⟨case, hcase, hkept⟩ := h
  obtain ⟨hplace, -⟩ := List.getElem?_eq_some_iff.mp hcase
  exact ⟨case, by rw [List.getElem?_append_left hplace, hcase], hkept⟩

private theorem modify (h : CaseAt P tests place) (hf : ∀ case, P case → P (f case)) (index : Nat) :
    CaseAt P (tests.modify index f) place := by
  obtain ⟨case, hcase, hkept⟩ := h
  unfold CaseAt
  rw [List.getElem?_modify, hcase]
  by_cases hindex : index = place
  · exact ⟨f case, by simp [hindex], hf case hkept⟩
  · exact ⟨case, by simp [hindex], hkept⟩

private theorem update (h : CaseAt P result.tests place) (hf : ∀ case, P case → P (f case))
    (about : TestDescription) : CaseAt P (result.update about f).tests place := by
  unfold RunResult.update
  split
  · exact h.modify hf _
  · exact h.append _

private theorem closeOpen (h : CaseAt P result.tests place) (hf : ∀ case, P case → P (f case)) :
    CaseAt P (result.closeOpen f).tests place := by
  unfold RunResult.closeOpen
  split
  · exact h
  · exact h.modify hf _

variable (hP : Lasting skip P)
include hP

/-- An event leaves a lasting property of a case. -/
theorem collect (h : CaseAt P result.tests place) (event : Event) :
    CaseAt P (Module.collect skip result event).tests place := by
  cases event with
  | testStarted test =>
    have hstarted : CaseAt P (result.testStarted test).tests place := h.append _
    cases skip with
    | false => exact hstarted
    | true => exact hstarted.update hP.ignored test
  | testFailed test trace =>
    cases skip with
    | false => exact h.update (fun case => hP.failed rfl case trace) test
    | true => exact h
  | testIgnored test => exact h.update hP.ignored test
  | testEnded test metrics =>
    rw [Module.collect, tests_testEnded]
    exact h.update (fun case => hP.ended case metrics) test
  | runFailed message => cases skip <;> exact h
  | runStarted | runEnded | testLog | logSaved => exact h

/-- So do several events. -/
theorem collectAll (h : CaseAt P result.tests place) (events : List Event) :
    CaseAt P (result.collectAll skip events).tests place := by
  induction events generalizing result with
  | nil => exact h
  | cons event rest ih => exact ih (h.collect hP event)

private theorem afterFailure (h : CaseAt P result.tests place) (error : TaskError) :
    CaseAt P (result.afterFailure skip error).tests place := by
  cases skip with
  | false => exact h.closeOpen fun case => hP.interrupted rfl case error.describe
  | true => exact h.closeOpen hP.ignored

/-- What lasts through the events of a run is there after the run. -/
theorem of_collectAll (h : CaseAt P (result.collectAll skip run.told).tests place) :
    CaseAt P (result.afterRun skip run).tests place := by
  rw [afterRun]
  split
  · exact h
  · exact h.afterFailure hP _

/-- So do the runs of units. -/
theorem afterRuns (h : CaseAt P result.tests place) (runs : List (UnitRun E)) :
    CaseAt P (result.afterRuns skip runs).tests place := by
  induction runs generalizing result with
  | nil => exact h
  | cons run rest ih => exact ih ((h.collectAll hP run.told).of_collectAll hP)

omit hP in
/-- So does a case that is made up for a failure. -/
theorem afterSynthetic (h : CaseAt P result.tests place) (error : TaskError)
    (testName : String) : CaseAt P (result.afterSynthetic error testName).tests place := by
  obtain ⟨added, -, htests⟩ := tests_afterSynthetic error testName result
  rw [htests]
  exact h.append _

end CaseAt

end Lasting

section Open

/-- If a case is open, it is one of the cases. -/
def OpenInside (result : RunResult) : Prop :=
  ∀ place, result.openCase = some place → place < result.tests.length

private theorem OpenInside.of_le {next : RunResult} (h : result.OpenInside)
    (hopen : next.openCase = none ∨ next.openCase = result.openCase)
    (hlength : result.tests.length ≤ next.tests.length) : next.OpenInside := by
  intro place hplace
  rcases hopen with hnone | hsame
  · rw [hnone] at hplace
    cases hplace
  · exact Nat.lt_of_lt_of_le (h place (hsame ▸ hplace)) hlength

private theorem OpenInside.collect (h : result.OpenInside) (skip : Bool) (event : Event) :
    (Module.collect skip result event).OpenInside := by
  cases event with
  | testStarted test =>
    have hstarted : (result.testStarted test).OpenInside := by
      intro place hplace
      obtain rfl := Option.some.inj hplace
      simp [testStarted]
    cases skip with
    | false => exact hstarted
    | true => exact hstarted.of_le (.inr (openCase_update _ _ _)) (length_le_update _ _ _)
  | testFailed test trace =>
    cases skip with
    | false => exact h.of_le (.inr (openCase_update _ _ _)) (length_le_update _ _ _)
    | true => exact h
  | testIgnored test => exact h.of_le (.inr (openCase_update _ _ _)) (length_le_update _ _ _)
  | testEnded test metrics =>
    refine h.of_le ?_ (length_le_collect skip result (.testEnded test metrics))
    cases hcloses : result.isOpen test with
    | true => exact .inl (by simp [Module.collect, testEnded, hcloses])
    | false => exact .inr (by simp [Module.collect, testEnded, hcloses, openCase_update])
  | runFailed message => cases skip <;> exact h
  | runStarted | runEnded | testLog | logSaved => exact h

/-- The open case stays one of the cases, whatever is heard. -/
theorem OpenInside.collectAll (h : result.OpenInside) (skip : Bool) (events : List Event) :
    (result.collectAll skip events).OpenInside := by
  induction events generalizing result with
  | nil => exact h
  | cons event rest ih => exact ih (h.collect skip event)

/-- Once the open case is closed, none is open. -/
theorem openCase_closeOpen (result : RunResult) (f : TestCase → TestCase) :
    (result.closeOpen f).openCase = none := by
  cases hopen : result.openCase <;> simp [closeOpen, hopen]

/-- After the failure of a unit no case is open. -/
theorem openCase_afterFailure (skip : Bool) (error : TaskError) (result : RunResult) :
    (result.afterFailure skip error).openCase = none := by
  cases skip <;> exact openCase_closeOpen result _

private theorem OpenInside.afterRun (h : result.OpenInside) (skip : Bool) (run : UnitRun E) :
    (result.afterRun skip run).OpenInside := by
  rw [RunResult.afterRun]
  split
  · exact h.collectAll skip run.told
  · intro place hplace
    rw [openCase_afterFailure] at hplace
    cases hplace

/-- The open case stays one of the cases, whatever units run. -/
theorem OpenInside.afterRuns (h : result.OpenInside) (skip : Bool) (runs : List (UnitRun E)) :
    (result.afterRuns skip runs).OpenInside := by
  induction runs generalizing result with
  | nil => exact h
  | cons run rest ih => exact ih (h.afterRun skip run)

/-- Before a module runs no case is open. -/
theorem openInside_empty : ({} : RunResult).OpenInside :=
  nofun

end Open

end RunResult

end Fleet
