import Fleet.Proofs.Module.Cases

/-!
# Listening to a replay

Results are replayed as the events of one run. Whoever collects these events again, from nothing,
cannot tell them from the first results: every case comes up once, in order, with the verdict, the
trace and the metrics it was told with, all failures have become one, and the count that was
announced is the count that is expected. What a replay leaves out is lost for good: whether a case
that passed was ever ended, and whether a case was interrupted.
-/

namespace Fleet

namespace TestCase

/-- What a listener makes of the events that tell of a case: it is complete, and only a failure has
a trace. -/
def retold (case : TestCase) : TestCase where
  test := case.test
  status := if case.status = .incomplete then .passed else case.status
  trace := if case.status = .failed then case.trace else ""
  metrics := case.metrics

@[simp] theorem test_retold (case : TestCase) : case.retold.test = case.test :=
  rfl

@[simp] theorem metrics_retold (case : TestCase) : case.retold.metrics = case.metrics :=
  rfl

/-- A case that was told of is told of in the same way again. -/
theorem caseEvents_retold (case : TestCase) :
    RunResult.caseEvents case.retold = RunResult.caseEvents case := by
  unfold RunResult.caseEvents
  cases hstatus : case.status <;> simp [retold, hstatus]

end TestCase

namespace RunResult

variable {result : RunResult}

/-- What a listener that starts from nothing makes of a replay. -/
def retold (result : RunResult) : RunResult where
  expected := max result.expected result.numTests
  tests := result.tests.map TestCase.retold
  failures := if result.isFailure then [result.failureMessage] else []
  metrics := result.metrics

private theorem isFailure_retold (result : RunResult) :
    result.retold.isFailure = result.isFailure := by
  by_cases h : result.isFailure = true
  · rw [h, isFailure, retold, if_pos h]
    rfl
  · rw [isFailure, retold, if_neg h, Bool.eq_false_iff.mpr h]
    rfl

/-- The messages of all failures are the message of the one they became, also if it is empty. -/
theorem failureMessage_retold (h : result.isFailure = true) :
    result.retold.failureMessage = result.failureMessage := by
  have hone : result.retold.failures = [result.failureMessage] := if_pos h
  rw [failureMessage, hone]
  rfl

/-- Results that were told of are replayed in the same way again. -/
theorem replay_retold (result : RunResult) (run : String) (elapsedMs : Int) :
    result.retold.replay run elapsedMs = result.replay run elapsedMs := by
  have hcount : max (result.retold.expected : Int) result.retold.numTests =
      max (result.expected : Int) result.numTests := by
    simp only [retold, numTests, List.length_map]
    omega
  have hcases : result.retold.tests.flatMap caseEvents = result.tests.flatMap caseEvents := by
    simp only [retold, List.flatMap_map, TestCase.caseEvents_retold]
  rw [replay, replay, hcount, hcases, isFailure_retold]
  by_cases h : result.isFailure = true
  · rw [failureMessage_retold h]
    rfl
  · simp only [if_neg h]
    rfl

/-- Of the events about one case a new case is made, which is closed in the end. -/
theorem collectAll_caseEvents (result : RunResult) (case : TestCase) :
    result.collectAll false (caseEvents case) =
      { result with tests := result.tests ++ [case.retold], openCase := none } := by
  cases hstatus : case.status <;>
    simp [caseEvents, hstatus, collectAll, Module.collect, testStarted, testFailed, testIgnored,
      testEnded, update, locate, isOpen, modify_last, ignoredStatus, TestCase.retold,
      Dict.empty_union]

/-- Several cases are collected one after the other. -/
theorem collectAll_cases (result : RunResult) (hclosed : result.openCase = none)
    (cases : List TestCase) :
    result.collectAll false (cases.flatMap caseEvents) =
      { result with tests := result.tests ++ cases.map TestCase.retold } := by
  induction cases generalizing result with
  | nil => simp [collectAll]
  | cons case rest ih =>
    have hsplit : result.collectAll false ((case :: rest).flatMap caseEvents) =
        (result.collectAll false (caseEvents case)).collectAll false (rest.flatMap caseEvents) := by
      simp [collectAll]
    rw [hsplit, collectAll_caseEvents, ih _ rfl]
    simp [← hclosed]

/-- Of a replay the results are made that the replay tells of. -/
theorem collectAll_replay (result : RunResult) (run : String) (elapsedMs : Int) :
    ({} : RunResult).collectAll false (result.replay run elapsedMs) = result.retold := by
  have hexpected : (max (result.expected : Int) result.numTests).toNat =
      max result.expected result.numTests := by
    omega
  have hsplit : ({} : RunResult).collectAll false (result.replay run elapsedMs) =
      ((({} : RunResult).addExpected (max (result.expected : Int) result.numTests)).collectAll false
        (result.tests.flatMap caseEvents)).collectAll false
          ((if result.isFailure then [.runFailed result.failureMessage] else []) ++
            [.runEnded elapsedMs result.metrics]) := by
    simp [collectAll, replay, Module.collect]
  rw [hsplit, collectAll_cases _ rfl]
  by_cases h : result.isFailure = true
  · simp [h, collectAll, Module.collect, runFailed, addMetrics, addExpected, retold, hexpected,
      Dict.empty_union]
  · simp [h, collectAll, Module.collect, addMetrics, addExpected, retold, hexpected,
      Dict.empty_union]

private theorem isLog_caseEvents (case : TestCase) :
    ∀ event ∈ caseEvents case, event.isLog = false := by
  unfold caseEvents
  cases case.status <;> simp [Event.isLog]

/-- A replay tells of no logs. -/
theorem isLog_replay (result : RunResult) (run : String) (elapsedMs : Int) :
    ∀ event ∈ result.replay run elapsedMs, event.isLog = false := by
  have hcases : ∀ event ∈ result.tests.flatMap caseEvents, event.isLog = false := by
    intro event hevent
    obtain ⟨case, -, hcase⟩ := List.mem_flatMap.mp hevent
    exact isLog_caseEvents case event hcase
  have hfailure : ∀ event ∈ (if result.isFailure then [Event.runFailed result.failureMessage]
      else []), event.isLog = false := by
    split <;> simp [Event.isLog]
  have hopening : ∀ event ∈ .runStarted run (max result.expected result.numTests) ::
      result.tests.flatMap caseEvents, event.isLog = false :=
    List.forall_mem_cons.mpr ⟨rfl, hcases⟩
  have hclosing : ∀ event ∈ [Event.runEnded elapsedMs result.metrics], event.isLog = false := by
    simp [Event.isLog]
  exact List.forall_mem_append.mpr ⟨List.forall_mem_append.mpr ⟨hopening, hfailure⟩, hclosing⟩

end RunResult

namespace Module

variable {E : Interface} {module : Module}

/-- Listening to events of which none is about a log is collecting them: nothing is asked, and
nothing but the results changes. -/
theorem run_listen (module : Module) {events : List Event}
    (h : ∀ event ∈ events, event.isLog = false) :
    (events.forM listen : Flow E Module Unit).run.run module =
      .done (.ok (), { module with
        result := module.result.collectAll module.skipsTests events }) := by
  induction events generalizing module with
  | nil => rfl
  | cons event rest ih =>
    obtain ⟨hevent, hrest⟩ := List.forall_mem_cons.mp h
    have hlisten : (listen event : Flow E Module Unit) = modify fun module =>
        { module with result := collect module.skipsTests module.result event } := by
      cases event <;> first | rfl | cases hevent
    rw [List.forM, hlisten]
    exact ih _ hrest

/-- Replaying is a fixed point of collecting: a module that has no results yet and does not skip
test cases, listening to the replay of any results, asks nothing and throws nothing, and its own
results are then replayed by the very same events. -/
theorem replayed_alike_once_heard (result : RunResult) (run : String) (elapsedMs : Int)
    (hfresh : module.result = {}) (hskips : module.skipsTests = false) :
    ∃ heard : RunResult,
      ((result.replay run elapsedMs).forM listen : Flow E Module Unit).run.run module =
        .done (.ok (), { module with result := heard }) ∧
      heard.replay run elapsedMs = result.replay run elapsedMs := by
  have hlistened := run_listen (E := E) module (result.isLog_replay run elapsedMs)
  rw [hfresh, hskips, result.collectAll_replay] at hlistened
  exact ⟨result.retold, hlistened, result.replay_retold run elapsedMs⟩

/-- Results with all that a replay could lose: a test that was started twice and left once, one that
was interrupted, one that failed without being started, more cases than were announced, and failures
of which the first has no message. -/
def tangled : RunResult :=
  let boot : TestDescription := { className := "suite", testName := "boot" }
  let call : TestDescription := { className := "suite", testName := "call" }
  let result := (({} : RunResult).addExpected 1).testStarted boot
  let result := (result.testStarted boot).testEnded boot (.ofList [("ms", "7")])
  let result := (result.testFailed call "no carrier").testStarted call
  (((result.failOpen "gone").runFailed "").runFailed "lost").addMetrics (.ofList [("runs", "2")])

/-- Nothing of these results is lost when their replay is heard and replayed. -/
theorem replayed_alike_once_heard_tangled :
    let module := create "suite" [] [] [] none
    module.result = {} ∧ module.skipsTests = false ∧
      ∃ heard : RunResult,
        ((tangled.replay "suite" 5).forM listen : Flow .silent Module Unit).run.run module =
          .done (.ok (), { module with result := heard }) ∧
        heard.replay "suite" 5 = tangled.replay "suite" 5 :=
  ⟨rfl, rfl, replayed_alike_once_heard tangled "suite" 5 rfl rfl⟩

end Module

end Fleet
