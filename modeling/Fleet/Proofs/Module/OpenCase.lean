import Fleet.Proofs.Module.Cases

/-!
# The open case

An event about the test of the open case goes to the open case at once; for any other test the cases
are searched backwards. Whatever happens to the results, the open case is the latest one of its
test: cases that come after it, also of tests that never started, are cases of other tests. So the
search would find the same.
-/

namespace Fleet.RunResult

variable {result : RunResult} {tests : List TestCase} {test other : TestDescription}
  {place : Nat} {f : TestCase → TestCase}

/-- The test that the case at a place is one of. -/
def testAt (tests : List TestCase) (place : Nat) : Option TestDescription :=
  (tests[place]?).map (·.test)

/-- The case at this place is one of the test, and no later one is. -/
structure LatestAt (tests : List TestCase) (test : TestDescription) (place : Nat) : Prop where
  here : testAt tests place = some test
  last : ∀ later, place < later → testAt tests later ≠ some test

section Latest

private theorem testAt_of_lt (h : place < tests.length) :
    testAt tests place = some tests[place].test := by
  rw [testAt, List.getElem?_eq_getElem h, Option.map_some]

private theorem lt_of_testAt (h : testAt tests place = some test) : place < tests.length := by
  obtain ⟨case, hcase, -⟩ := Option.map_eq_some_iff.mp h
  exact (List.getElem?_eq_some_iff.mp hcase).1

private theorem exists_testAt_iff : (∃ place, testAt tests place = some test) ↔
    ∃ case ∈ tests, case.test = test := by
  simp only [testAt, Option.map_eq_some_iff, List.mem_iff_getElem?]
  exact ⟨fun ⟨place, case, hcase, htest⟩ => ⟨case, ⟨place, hcase⟩, htest⟩,
    fun ⟨case, ⟨place, hcase⟩, htest⟩ => ⟨place, case, hcase, htest⟩⟩

/-- A test has one latest case at most. -/
theorem LatestAt.unique {later : Nat} (h : LatestAt tests test place)
    (hlater : LatestAt tests test later) : place = later := by
  rcases Nat.lt_trichotomy place later with hlt | rfl | hlt
  · exact absurd hlater.here (h.last later hlt)
  · rfl
  · exact absurd h.here (hlater.last place hlt)

private theorem latest_eq_none_iff :
    latest tests test = none ↔ ∀ case ∈ tests, case.test ≠ test := by
  rw [latest, Option.map_eq_none_iff, List.findIdx?_eq_none_iff]
  simp

/-- The backward search finds the latest case. -/
theorem latestAt_of_latest (h : latest tests test = some place) : LatestAt tests test place := by
  obtain ⟨back, hback, rfl⟩ := Option.map_eq_some_iff.mp h
  obtain ⟨hlength, htest, hfirst⟩ := List.findIdx?_eq_some_iff_getElem.mp hback
  rw [List.length_reverse] at hlength
  rw [List.getElem_reverse, decide_eq_true_eq] at htest
  refine ⟨by rw [testAt_of_lt (by omega), htest], fun later hlater hagain => ?_⟩
  have hinside := lt_of_testAt hagain
  have hearlier := hfirst (tests.length - 1 - later) (by omega)
  have hsame : tests.length - 1 - (tests.length - 1 - later) = later := by omega
  rw [testAt_of_lt hinside] at hagain
  simp [List.getElem_reverse, hsame, Option.some.inj hagain] at hearlier

private theorem latest_eq_some_iff :
    latest tests test = some place ↔ LatestAt tests test place := by
  refine ⟨latestAt_of_latest, fun h => ?_⟩
  cases hlatest : latest tests test with
  | none =>
    obtain ⟨case, hcase, htest⟩ := exists_testAt_iff.mp ⟨place, h.here⟩
    exact absurd htest (latest_eq_none_iff.mp hlatest case hcase)
  | some found => rw [(latestAt_of_latest hlatest).unique h]

private theorem testAt_append (tests : List TestCase) (added : TestCase) (place : Nat) :
    testAt (tests ++ [added]) place =
      if place = tests.length then some added.test else testAt tests place := by
  unfold testAt
  by_cases hplace : place = tests.length
  · simp [hplace]
  · rcases Nat.lt_or_gt_of_ne hplace with hold | hbeyond
    · rw [List.getElem?_append_left hold, if_neg hplace]
    · rw [if_neg hplace, List.getElem?_eq_none (by simp; omega),
        List.getElem?_eq_none (Nat.le_of_lt hbeyond)]

/-- A changed case is one of the same test. -/
theorem testAt_modify (hf : ∀ case, (f case).test = case.test) (tests : List TestCase)
    (index place : Nat) : testAt (tests.modify index f) place = testAt tests place := by
  unfold testAt
  rw [List.getElem?_modify]
  by_cases hindex : index = place
  · simp [hindex, Option.map_map, Function.comp_def, hf]
  · simp [hindex]

/-- A case that is added becomes the latest one of its test. -/
theorem latestAt_append_self (tests : List TestCase) (added : TestCase) :
    LatestAt (tests ++ [added]) added.test tests.length := by
  refine ⟨by rw [testAt_append, if_pos rfl], fun later hlater hagain => ?_⟩
  have hinside := lt_of_testAt hagain
  rw [List.length_append, List.length_singleton] at hinside
  omega

/-- For any other test nothing changes. -/
theorem LatestAt.append (h : LatestAt tests test place) {added : TestCase}
    (hadded : added.test ≠ test) : LatestAt (tests ++ [added]) test place := by
  have hinside := lt_of_testAt h.here
  refine ⟨?_, fun later hlater => ?_⟩
  · rw [testAt_append, if_neg (Nat.ne_of_lt hinside), h.here]
  · rw [testAt_append]
    split
    · exact fun hsame => hadded (Option.some.inj hsame)
    · exact h.last later hlater

private theorem LatestAt.modify (h : LatestAt tests test place)
    (hf : ∀ case, (f case).test = case.test)
    (index : Nat) : LatestAt (tests.modify index f) test place :=
  ⟨by rw [testAt_modify hf, h.here], fun later hlater => by
    rw [testAt_modify hf]
    exact h.last later hlater⟩

end Latest

section Open

/-- If a case is open, it is the latest one of its test. -/
def OpenLatest (result : RunResult) : Prop :=
  ∀ place, result.openCase = some place → ∃ test, LatestAt result.tests test place

/-- Where the open case is the latest one of its test, looking at it first changes nothing. -/
theorem OpenLatest.locate_eq (h : result.OpenLatest) (test : TestDescription) :
    result.locate test = latest result.tests test := by
  rw [locate]
  split
  · rename_i hopen
    cases hplace : result.openCase with
    | none => simp [isOpen, hplace] at hopen
    | some place =>
      obtain ⟨opened, hopened⟩ := h place hplace
      have hhere : testAt result.tests place = some test := by
        rw [isOpen, hplace] at hopen
        obtain ⟨case, hcase, htest⟩ := Option.any_eq_true _ _ |>.mp hopen
        rw [testAt, hcase, Option.map_some, of_decide_eq_true htest]
      obtain rfl := Option.some.inj (hopened.here.symm.trans hhere)
      exact (latest_eq_some_iff.mpr hopened).symm
  · rfl

private theorem openLatest_of_none (h : result.openCase = none) : result.OpenLatest := by
  intro place hplace
  rw [h] at hplace
  cases hplace

private theorem OpenLatest.update (h : result.OpenLatest) (test : TestDescription)
    (hf : ∀ case, (f case).test = case.test) : (result.update test f).OpenLatest := by
  intro place hplace
  rw [openCase_update] at hplace
  obtain ⟨opened, hopened⟩ := h place hplace
  refine ⟨opened, ?_⟩
  unfold RunResult.update
  split
  · exact hopened.modify hf _
  -- A case is added only if there is none of its test, and there is one of the open case.
  · rename_i hnone
    rw [h.locate_eq] at hnone
    obtain ⟨case, hcase, htest⟩ := exists_testAt_iff.mp ⟨place, hopened.here⟩
    refine hopened.append ?_
    rw [hf]
    rintro rfl
    exact latest_eq_none_iff.mp hnone case hcase htest

private theorem OpenLatest.testEnded (h : result.OpenLatest) (test : TestDescription)
    (metrics : Metrics) :
    (result.testEnded test metrics).OpenLatest := by
  unfold RunResult.testEnded
  dsimp only
  split
  · exact openLatest_of_none rfl
  · exact h.update test fun _ => rfl

end Open

section Changes

/-- A change of the results. -/
inductive Change where
  | addExpected (count : Int)
  | testStarted (test : TestDescription)
  | testFailed (test : TestDescription) (trace : String)
  | testIgnored (test : TestDescription)
  | testEnded (test : TestDescription) (metrics : Metrics)
  | runFailed (message : String)
  | addMetrics (metrics : Metrics)
  | failOpen (trace : String)
  | ignoreOpen

/-- The results after a change. -/
def change (result : RunResult) : Change → RunResult
  | .addExpected count => result.addExpected count
  | .testStarted test => result.testStarted test
  | .testFailed test trace => result.testFailed test trace
  | .testIgnored test => result.testIgnored test
  | .testEnded test metrics => result.testEnded test metrics
  | .runFailed message => result.runFailed message
  | .addMetrics metrics => result.addMetrics metrics
  | .failOpen trace => result.failOpen trace
  | .ignoreOpen => result.ignoreOpen

/-- What some changes make of results that are empty at first. -/
def reached (changes : List Change) : RunResult :=
  changes.foldl change {}

private theorem OpenLatest.change (h : result.OpenLatest) (step : Change) :
    (result.change step).OpenLatest := by
  cases step with
  | addExpected | runFailed | addMetrics => exact h
  | testStarted test =>
    intro place hplace
    obtain rfl := Option.some.inj hplace
    exact ⟨test, latestAt_append_self result.tests { test }⟩
  | testFailed test trace => exact h.update test fun _ => rfl
  | testIgnored test => exact h.update test fun _ => rfl
  | testEnded test metrics => exact h.testEnded test metrics
  | failOpen trace => exact openLatest_of_none (openCase_closeOpen result _)
  | ignoreOpen => exact openLatest_of_none (openCase_closeOpen result _)

private theorem openLatest_reached (changes : List Change) : (reached changes).OpenLatest := by
  have hfrom : ∀ result : RunResult, result.OpenLatest →
      (changes.foldl RunResult.change result).OpenLatest := by
    induction changes with
    | nil => exact fun _ h => h
    | cons step rest ih => exact fun result h => ih _ (h.change step)
  exact hfrom {} (openLatest_of_none rfl)

/-- Whatever was changed, and in whatever order: the open case is one of the cases, and the latest
one of its test. So an event about a test is found the case that a plain backward search finds; it
changes the latest case of the test and no other one, or else, if the test has no case, a new one at
the end. -/
theorem update_changes_latest (changes : List Change) :
    let result := reached changes
    (∀ place, result.openCase = some place →
      place < result.tests.length ∧ ∃ test, LatestAt result.tests test place) ∧
    ∀ test,
      result.locate test = latest result.tests test ∧
      (∀ place, result.locate test = some place ↔ LatestAt result.tests test place) ∧
      (result.locate test = none ↔ ∀ case ∈ result.tests, case.test ≠ test) ∧
      ∀ f : TestCase → TestCase,
        (∀ place, LatestAt result.tests test place →
          result.update test f = { result with tests := result.tests.modify place f }) ∧
        ((∀ case ∈ result.tests, case.test ≠ test) →
          result.update test f = { result with tests := result.tests ++ [f { test }] }) := by
  intro result
  have hopen : result.OpenLatest := openLatest_reached changes
  refine ⟨fun place hplace => ?_, fun test => ?_⟩
  · obtain ⟨test, hlatest⟩ := hopen place hplace
    exact ⟨lt_of_testAt hlatest.here, test, hlatest⟩
  have hlocate := hopen.locate_eq test
  have hsome : ∀ place, result.locate test = some place ↔ LatestAt result.tests test place :=
    fun place => by rw [hlocate, latest_eq_some_iff]
  have hnone : result.locate test = none ↔ ∀ case ∈ result.tests, case.test ≠ test := by
    rw [hlocate, latest_eq_none_iff]
  refine ⟨hlocate, hsome, hnone, fun f => ⟨fun place hplace => ?_, fun habsent => ?_⟩⟩
  · rw [update, (hsome place).mpr hplace]
  · rw [update, hnone.mpr habsent]

/-- A case that failed without being started is added behind the open one, which stays open; a test
started before it has two cases. -/
def crossed : List Change :=
  let boot : TestDescription := { className := "suite", testName := "boot" }
  let call : TestDescription := { className := "suite", testName := "call" }
  [.testStarted boot, .testEnded boot .empty, .testStarted boot, .testFailed call "no carrier"]

/-- The later of the two cases of a test is found, though another case stands behind it. -/
theorem update_changes_latest_crossed :
    let boot : TestDescription := { className := "suite", testName := "boot" }
    let text : TestDescription := { className := "suite", testName := "text" }
    let result := reached crossed
    result.openCase = some 1 ∧ result.tests.length = 3 ∧ LatestAt result.tests boot 1 ∧
      (∀ case ∈ result.tests, case.test ≠ text) ∧
      result.locate boot = some 1 ∧ result.locate text = none ∧
      (result.testIgnored boot).tests.length = 3 ∧ (result.testIgnored text).tests.length = 4 := by
  intro boot text result
  obtain ⟨hopen, hfound⟩ := update_changes_latest crossed
  obtain ⟨-, test, hlatest⟩ := hopen 1 rfl
  obtain rfl : boot = test := Option.some.inj hlatest.here
  have habsent : ∀ case ∈ result.tests, case.test ≠ text := by
    decide
  obtain ⟨-, hboot, -, hchanged⟩ := hfound boot
  obtain ⟨-, -, htext, hadded⟩ := hfound text
  refine ⟨rfl, rfl, hlatest, habsent, (hboot 1).mpr hlatest, htext.mpr habsent, ?_, ?_⟩
  · rw [testIgnored, (hchanged _).1 1 hlatest, List.length_modify]
    rfl
  · rw [testIgnored, (hadded _).2 habsent, List.length_append]
    rfl

end Changes

end Fleet.RunResult
