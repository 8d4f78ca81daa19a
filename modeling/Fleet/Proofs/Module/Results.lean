import Fleet.Proofs.Module.Cases

/-!
# What the results of a module tell of its units

An event of a unit changes one case at most, the one it concerns. So what is known about a case in
the end can be traced back: a case that passed is one that a unit ended, and a case of which nothing
is known is one that its unit started and then left. The failures on record and the number of tests
that are expected are those the runs tell of.
-/

namespace Fleet

/-- The message with which an event says that a run failed. -/
def Event.failure? : Event → Option String
  | .runFailed message => some message
  | _ => none

/-- The messages of the failures a run of a unit tells of or ends with. -/
def UnitRun.messages {E : Interface} (run : UnitRun E) : List String :=
  run.told.filterMap Event.failure? ++ (run.failure?.map (·.message)).toList

/-- The number of tests an event announces. -/
def Event.announced : Event → Nat
  | .runStarted _ count => count.toNat
  | _ => 0

namespace RunResult

variable {E : Interface} {result : RunResult} {test : TestDescription} {f : TestCase → TestCase}
  {place : Nat}

private theorem hasVerdict_ignored (case : TestCase) :
    { case with status := ignoredStatus case.status }.HasVerdict := by
  unfold TestCase.HasVerdict
  cases case.status
  all_goals simp [ignoredStatus]

/-- The case at a place exists and is complete. -/
def Settled (result : RunResult) (place : Nat) : Prop :=
  ∃ case, result.tests[place]? = some case ∧ case.status ≠ .incomplete

/-- A case is complete once it was ended. -/
theorem settled_of_ended (result : RunResult) (test : TestDescription) (metrics : Metrics) :
    (Module.collect false result (.testEnded test metrics)).Settled (result.placeOf test) := by
  unfold Settled
  rw [Module.collect, tests_testEnded, getElem?_update, if_pos rfl]
  refine ⟨_, rfl, ?_⟩
  dsimp only
  split
  · simp
  · assumption

/-- A settled case is not incomplete. -/
theorem Settled.ne_incomplete (h : result.Settled place) {case : TestCase}
    (hcase : result.tests[place]? = some case) : case.status ≠ .incomplete := by
  obtain ⟨other, hother, hcomplete⟩ := h
  rw [hcase] at hother
  rwa [Option.some.inj hother]

/-- After an event a case is what it was before, or it was started by the event, or it has a
verdict, or the event ended it. -/
theorem case_of_collect {event : Event} {case : TestCase}
    (h : (Module.collect false result event).tests[place]? = some case) :
    result.tests[place]? = some case ∨
      (∃ test, event = .testStarted test ∧ result.tests.length = place ∧ case = { test }) ∨
      case.HasVerdict ∨
      ∃ test metrics, event = .testEnded test metrics ∧ result.placeOf test = place ∧
        case.status ≠ .incomplete := by
  cases event with
  | testStarted test =>
    change (result.tests ++ [{ test := test }])[place]? = some case at h
    rcases Nat.lt_trichotomy place result.tests.length with hold | rfl | hbeyond
    · rw [List.getElem?_append_left hold] at h
      exact .inl h
    · rw [List.getElem?_concat_length] at h
      exact .inr (.inl ⟨test, rfl, rfl, (Option.some.inj h).symm⟩)
    · rw [List.getElem?_eq_none (by simp; omega)] at h
      cases h
  | testFailed test trace =>
    change (result.update test _).tests[place]? = some case at h
    rw [getElem?_update] at h
    split at h
    · obtain rfl := Option.some.inj h
      exact .inr (.inr (.inl (.inl rfl)))
    · exact .inl h
  | testIgnored test =>
    change (result.update test _).tests[place]? = some case at h
    rw [getElem?_update] at h
    split at h
    · obtain rfl := Option.some.inj h
      exact .inr (.inr (.inl (hasVerdict_ignored _)))
    · exact .inl h
  | testEnded test metrics =>
    by_cases hplace : result.placeOf test = place
    · subst hplace
      exact .inr (.inr (.inr ⟨test, metrics, rfl, rfl, (settled_of_ended _ _ _).ne_incomplete h⟩))
    · rw [Module.collect, tests_testEnded, getElem?_update, if_neg (Ne.symm hplace)] at h
      exact .inl h
  | runStarted | runFailed | runEnded | testLog | logSaved => exact .inl h

/-- The open case stays open while nothing is known about it, until another one is started. -/
theorem openCase_collect {event : Event} {case : TestCase} (hopen : result.openCase = some place)
    (h : (Module.collect false result event).tests[place]? = some case)
    (hincomplete : case.status = .incomplete) (hsame : ∀ test, event ≠ .testStarted test) :
    (Module.collect false result event).openCase = some place := by
  cases event with
  | testStarted test => exact absurd rfl (hsame test)
  | testFailed test trace => exact (openCase_update _ _ _).trans hopen
  | testIgnored test => exact (openCase_update _ _ _).trans hopen
  | testEnded test metrics =>
    cases hcloses : result.isOpen test with
    | true =>
      have hplace : result.placeOf test = place := by simp [placeOf, locate, hcloses, hopen]
      subst hplace
      exact absurd hincomplete ((settled_of_ended _ _ _).ne_incomplete h)
    | false => simp [Module.collect, testEnded, hcloses, openCase_update, hopen]
  | runStarted | runFailed | runEnded | testLog | logSaved => exact hopen

variable {events future : List Event} {event : Event} {case : TestCase}

private theorem lasting_complete : Lasting false fun case => case.status ≠ .incomplete where
  ignored case _ := (hasVerdict_ignored case).ne_incomplete
  ended case _ hcomplete := by simp [hcomplete]
  failed _ _ _ _ := nofun
  interrupted _ _ _ _ := nofun

private theorem Settled.collectAll (h : result.Settled place) :
    (result.collectAll false events).Settled place :=
  CaseAt.collectAll lasting_complete h events

/-- One of the events ends the case at a place. -/
def EndedBy (result : RunResult) (events : List Event) (place : Nat) : Prop :=
  ∃ past test metrics future, events = past ++ .testEnded test metrics :: future ∧
    (result.collectAll false past).placeOf test = place

/-- One of the events starts the case at a place, and these follow it. -/
def StartedBy (result : RunResult) (events : List Event) (place : Nat) (future : List Event) :
    Prop :=
  ∃ past test, events = past ++ .testStarted test :: future ∧
    (result.collectAll false past).tests.length = place

private theorem EndedBy.cons (h : (Module.collect false result event).EndedBy events place) :
    result.EndedBy (event :: events) place := by
  obtain ⟨past, test, metrics, future, rfl, hplace⟩ := h
  exact ⟨event :: past, test, metrics, future, rfl, hplace⟩

private theorem StartedBy.cons
    (h : (Module.collect false result event).StartedBy events place future) :
    result.StartedBy (event :: events) place future := by
  obtain ⟨past, test, rfl, hplace⟩ := h
  exact ⟨event :: past, test, rfl, hplace⟩

/-- A case that was ended stays complete. -/
theorem EndedBy.settled (h : result.EndedBy events place) :
    (result.collectAll false events).Settled place := by
  obtain ⟨past, test, metrics, future, rfl, rfl⟩ := h
  have hended : (Module.collect false (result.collectAll false past)
      (.testEnded test metrics)).Settled ((result.collectAll false past).placeOf test) :=
    settled_of_ended _ _ _
  have hall : result.collectAll false (past ++ .testEnded test metrics :: future) =
      (Module.collect false (result.collectAll false past) (.testEnded test metrics)).collectAll
        false future := by
    simp [RunResult.collectAll]
  rw [hall]
  exact hended.collectAll

/-- A case that was just started is open in the end, or another one was started, or it is
complete. -/
theorem openCase_collectAll (hopen : result.openCase = some place)
    (hplace : place < result.tests.length)
    (hunsettled : ¬ (result.collectAll false events).Settled place) :
    (∃ other, .testStarted other ∈ events) ∨
      (result.collectAll false events).openCase = some place := by
  induction events generalizing result with
  | nil => exact .inr hopen
  | cons event rest ih =>
    by_cases hstarts : ∃ test, event = .testStarted test
    · obtain ⟨test, rfl⟩ := hstarts
      exact .inl ⟨test, List.mem_cons_self⟩
    · have hplace' := Nat.lt_of_lt_of_le hplace (length_le_collect false result event)
      have hcase := List.getElem?_eq_getElem hplace'
      -- What is complete stays complete, so the case is incomplete all the way.
      have hincomplete :
          ((Module.collect false result event).tests[place]).status = .incomplete :=
        Decidable.of_not_not fun hcomplete =>
          have hsettled : (Module.collect false result event).Settled place := ⟨_, hcase, hcomplete⟩
          hunsettled hsettled.collectAll
      have hstill := openCase_collect hopen hcase hincomplete fun test h => hstarts ⟨test, h⟩
      rcases ih hstill hplace' hunsettled with ⟨other, hother⟩ | hlast
      · exact .inl ⟨other, List.mem_cons_of_mem _ hother⟩
      · exact .inr hlast

/-- A case without a verdict was there before, or it was ended, or it was started and left. -/
theorem case_of_collectAll (h : (result.collectAll false events).tests[place]? = some case)
    (hverdict : ¬ case.HasVerdict) :
    result.tests[place]? = some case ∨ result.EndedBy events place ∨
      case.status = .incomplete ∧ ∃ future, result.StartedBy events place future ∧
        ((∃ other, .testStarted other ∈ future) ∨
          (result.collectAll false events).openCase = some place) := by
  induction events generalizing result with
  | nil => exact .inl h
  | cons event rest ih =>
    -- The case is traced back from the end: through the later events, then through this one.
    rcases ih h with hbefore | hended | ⟨hincomplete, future, hstarted, hleft⟩
    · rcases case_of_collect hbefore with
        hsame | ⟨test, rfl, hnew, rfl⟩ | hnot | ⟨test, metrics, rfl, hplace, -⟩
      · exact .inl hsame
      · subst hnew
        have hopen : (Module.collect false result (.testStarted test)).openCase =
            some result.tests.length :=
          rfl
        have hplace : result.tests.length <
            (Module.collect false result (.testStarted test)).tests.length := by
          simp [Module.collect, testStarted]
        have hleft := openCase_collectAll hopen hplace fun hsettled => hsettled.ne_incomplete h rfl
        exact .inr (.inr ⟨rfl, rest, ⟨[], test, rfl, rfl⟩, hleft⟩)
      · exact absurd hnot hverdict
      · exact .inr (.inl ⟨[], test, metrics, rest, rfl, hplace⟩)
    · exact .inr (.inl hended.cons)
    · exact .inr (.inr ⟨hincomplete, future, hstarted.cons, hleft⟩)

/-- The failure of a unit gives the open case a verdict and leaves the others as they are. -/
theorem case_of_afterFailure {error : TaskError}
    (h : (result.afterFailure false error).tests[place]? = some case)
    (hverdict : ¬ case.HasVerdict) :
    result.tests[place]? = some case ∧ result.openCase ≠ some place := by
  cases hopen : result.openCase with
  | none =>
    have htests : (result.afterFailure false error).tests = result.tests := by
      simp [afterFailure, failOpen, closeOpen, hopen, runFailed]
    rw [htests] at h
    exact ⟨h, (Option.some_ne_none place).symm⟩
  | some index =>
    have htests : (result.afterFailure false error).tests = result.tests.modify index
        ({ · with status := .failed, trace := error.describe, interrupted := true }) := by
      simp [afterFailure, failOpen, closeOpen, hopen, runFailed]
    rw [htests, List.getElem?_modify] at h
    by_cases hplace : index = place
    · subst hplace
      obtain ⟨before, -, rfl⟩ := Option.map_eq_some_iff.mp h
      exact absurd (.inl (by simp)) hverdict
    · simp only [if_neg hplace, id_map'] at h
      exact ⟨h, by simpa using hplace⟩

variable {run : UnitRun E} {runs : List (UnitRun E)}

/-- What becomes of a case by a run of a unit: it is as it was before, or it has a verdict, or the
unit ended it, or the unit started it and left it, by starting another one or by not failing. -/
theorem case_of_afterRun (h : (result.afterRun false run).tests[place]? = some case)
    (hverdict : ¬ case.HasVerdict) :
    result.tests[place]? = some case ∨ result.EndedBy run.told place ∨
      case.status = .incomplete ∧ ∃ future, result.StartedBy run.told place future ∧
        ((∃ other, .testStarted other ∈ future) ∨ run.failure? = none) := by
  rw [afterRun] at h
  cases hfailure : run.failure? with
  | none =>
    rw [hfailure] at h
    rcases case_of_collectAll h hverdict with
      hsame | hended | ⟨hincomplete, future, hstarted, -⟩
    · exact .inl hsame
    · exact .inr (.inl hended)
    · exact .inr (.inr ⟨hincomplete, future, hstarted, .inr rfl⟩)
  | some error =>
    rw [hfailure] at h
    obtain ⟨htold, hclosed⟩ := case_of_afterFailure h hverdict
    rcases case_of_collectAll htold hverdict with
      hsame | hended | ⟨hincomplete, future, hstarted, hother | hopen⟩
    · exact .inl hsame
    · exact .inr (.inl hended)
    · exact .inr (.inr ⟨hincomplete, future, hstarted, .inl hother⟩)
    · exact absurd hopen hclosed

private theorem settled_afterRun (h : (result.collectAll false run.told).Settled place) :
    (result.afterRun false run).Settled place :=
  CaseAt.of_collectAll lasting_complete h

/-- One of the runs ends the case at a place. -/
def EndedIn (result : RunResult) (runs : List (UnitRun E)) (place : Nat) : Prop :=
  ∃ earlier run later, runs = earlier ++ run :: later ∧
    (result.afterRuns false earlier).EndedBy run.told place

/-- One of the runs starts the case at a place and leaves it: it starts another one after it, or it
does not fail. -/
def LeftIn (result : RunResult) (runs : List (UnitRun E)) (place : Nat) : Prop :=
  ∃ earlier run later future, runs = earlier ++ run :: later ∧
    (result.afterRuns false earlier).StartedBy run.told place future ∧
    ((∃ other, .testStarted other ∈ future) ∨ run.failure? = none)

private theorem EndedIn.cons (h : (result.afterRun false run).EndedIn runs place) :
    result.EndedIn (run :: runs) place := by
  obtain ⟨earlier, ending, later, rfl, hended⟩ := h
  exact ⟨run :: earlier, ending, later, rfl, hended⟩

private theorem LeftIn.cons (h : (result.afterRun false run).LeftIn runs place) :
    result.LeftIn (run :: runs) place := by
  obtain ⟨earlier, leaving, later, future, rfl, hstarted, hleft⟩ := h
  exact ⟨run :: earlier, leaving, later, future, rfl, hstarted, hleft⟩

private theorem Settled.afterRuns (h : result.Settled place) :
    (result.afterRuns false runs).Settled place :=
  CaseAt.afterRuns lasting_complete h runs

/-- A case that was ended in a run is complete. -/
theorem EndedIn.settled (h : result.EndedIn runs place) :
    (result.afterRuns false runs).Settled place := by
  obtain ⟨earlier, run, later, rfl, hended⟩ := h
  rw [afterRuns_append]
  exact (settled_afterRun hended.settled).afterRuns

/-- A case without a verdict was there before the runs, or one of them ended it, or one of them
started it and left it. -/
theorem case_of_afterRuns (h : (result.afterRuns false runs).tests[place]? = some case)
    (hverdict : ¬ case.HasVerdict) :
    result.tests[place]? = some case ∨ result.EndedIn runs place ∨
      case.status = .incomplete ∧ result.LeftIn runs place := by
  induction runs generalizing result with
  | nil => exact .inl h
  | cons run rest ih =>
    rcases ih h with hbefore | hended | hleft
    · rcases case_of_afterRun hbefore hverdict with
        hsame | hended | ⟨hincomplete, future, hstarted, hleft⟩
      · exact .inl hsame
      · exact .inr (.inl ⟨[], run, rest, rfl, hended⟩)
      · exact .inr (.inr ⟨hincomplete, [], run, rest, future, rfl, hstarted, hleft⟩)
    · exact .inr (.inl hended.cons)
    · exact .inr (.inr ⟨hleft.1, hleft.2.cons⟩)

private theorem failures_update (result : RunResult) (test : TestDescription)
    (f : TestCase → TestCase) : (result.update test f).failures = result.failures := by
  unfold update
  split
  · rfl
  · rfl

private theorem failures_testEnded (result : RunResult) (test : TestDescription)
    (metrics : Metrics) :
    (result.testEnded test metrics).failures = result.failures := by
  cases hopen : result.isOpen test <;> simp [testEnded, hopen, failures_update]

/-- A failed run is recorded as a failure, unless test cases are skipped, and nothing else is. -/
theorem failures_collect (skip : Bool) (result : RunResult) (event : Event) :
    (Module.collect skip result event).failures =
      result.failures ++ if skip then [] else event.failure?.toList := by
  cases event with
  | testEnded test metrics =>
    cases skip <;> simp [Module.collect, failures_testEnded, Event.failure?]
  | _ =>
    cases skip <;>
      simp [Module.collect, Event.failure?, addExpected, testStarted, testFailed, testIgnored,
        runFailed, addMetrics, failures_update]

/-- The failures that are heard are recorded in order, unless test cases are skipped. -/
theorem failures_collectAll (skip : Bool) (result : RunResult) (events : List Event) :
    (result.collectAll skip events).failures =
      result.failures ++ if skip then [] else events.filterMap Event.failure? := by
  induction events generalizing result with
  | nil => cases skip <;> exact (List.append_nil _).symm
  | cons event rest ih =>
    have hstep : (result.collectAll skip (event :: rest)).failures = _ :=
      ih (Module.collect skip result event)
    rw [hstep, failures_collect, List.append_assoc]
    cases skip with
    | true => rfl
    | false => cases hfailure : event.failure? <;> simp [hfailure]

/-- The failure of a unit is recorded, unless test cases are skipped. -/
theorem failures_afterFailure (skip : Bool) (error : TaskError) (result : RunResult) :
    (result.afterFailure skip error).failures =
      result.failures ++ if skip then [] else [error.message] := by
  cases hopen : result.openCase <;> cases skip <;>
    simp [afterFailure, failOpen, ignoreOpen, closeOpen, runFailed, hopen]

private theorem failures_afterRun (skip : Bool) (result : RunResult) (run : UnitRun E) :
    (result.afterRun skip run).failures =
      result.failures ++ if skip then [] else run.messages := by
  rw [afterRun]
  cases hfailure : run.failure? with
  | none =>
    dsimp only
    rw [failures_collectAll]
    simp [UnitRun.messages, hfailure]
  | some error =>
    dsimp only
    rw [failures_afterFailure, failures_collectAll]
    cases skip <;> simp [UnitRun.messages, hfailure]

/-- The failures that are recorded are those the runs tell of or end with, in order. -/
theorem failures_afterRuns (skip : Bool) (result : RunResult) (runs : List (UnitRun E)) :
    (result.afterRuns skip runs).failures =
      result.failures ++ if skip then [] else runs.flatMap UnitRun.messages := by
  induction runs generalizing result with
  | nil => cases skip <;> exact (List.append_nil _).symm
  | cons run rest ih =>
    have hstep : (result.afterRuns skip (run :: rest)).failures = _ :=
      ih (result.afterRun skip run)
    rw [hstep, failures_afterRun, List.append_assoc]
    cases skip <;> rfl

private theorem expected_update (result : RunResult) (test : TestDescription)
    (f : TestCase → TestCase) : (result.update test f).expected = result.expected := by
  unfold update
  split
  · rfl
  · rfl

private theorem expected_testEnded (result : RunResult) (test : TestDescription)
    (metrics : Metrics) :
    (result.testEnded test metrics).expected = result.expected := by
  cases hopen : result.isOpen test <;> simp [testEnded, hopen, expected_update]

private theorem expected_collect (skip : Bool) (result : RunResult) (event : Event) :
    (Module.collect skip result event).expected = result.expected + event.announced := by
  cases event with
  | testEnded test metrics => exact expected_testEnded _ _ _
  | _ =>
    cases skip <;>
      simp [Module.collect, Event.announced, addExpected, testStarted, testFailed, testIgnored,
        runFailed, addMetrics, expected_update]

private theorem expected_collectAll (skip : Bool) (result : RunResult) (events : List Event) :
    (result.collectAll skip events).expected =
      result.expected + (events.map Event.announced).sum := by
  induction events generalizing result with
  | nil => rfl
  | cons event rest ih =>
    rw [List.map_cons, List.sum_cons, ← Nat.add_assoc, ← expected_collect skip]
    exact ih _

private theorem expected_afterRun (skip : Bool) (result : RunResult) (run : UnitRun E) :
    (result.afterRun skip run).expected =
      result.expected + (run.told.map Event.announced).sum := by
  rw [← expected_collectAll skip, afterRun]
  cases run.failure? with
  | none => rfl
  | some error =>
    cases hopen : (result.collectAll skip run.told).openCase <;> cases skip <;>
      simp [afterFailure, failOpen, ignoreOpen, closeOpen, runFailed, hopen]

/-- Runs announce what their units announce. -/
theorem expected_afterRuns (skip : Bool) (result : RunResult) (runs : List (UnitRun E)) :
    (result.afterRuns skip runs).expected =
      result.expected + ((runs.flatMap UnitRun.told).map Event.announced).sum := by
  induction runs generalizing result with
  | nil => rfl
  | cons run rest ih =>
    rw [List.flatMap_cons, List.map_append, List.sum_append, ← Nat.add_assoc,
      ← expected_afterRun skip]
    exact ih _

/-- A case that is made up for a failure is expected. -/
theorem expected_afterSynthetic (error : TaskError) (testName : String) (result : RunResult) :
    (result.afterSynthetic error testName).expected = result.expected + 1 := by
  simp [afterSynthetic, runFailed, expected_testEnded, testFailed, expected_update, testStarted,
    addExpected]

end RunResult

end Fleet
