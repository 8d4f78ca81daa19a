import Fleet.Proofs.Module.Failures
import Fleet.Proofs.Module.Fidelity

/-!
# Runs that end early

A unit that fails leaves a mark in the results: the case that was open then failed with its error,
and its message is noted; all other cases stay as they are. If the unit lost its device, no other
unit runs and these are the final results, else the next unit runs and the mark lasts.
-/

namespace Fleet

variable {E : Interface}

namespace RunResult

variable {result : RunResult} {place : Nat} {case : TestCase} {error : TaskError}
  {message : String} {id : String} {elapsed : Int}

/-- What the failure of a unit leaves of the results. -/
structure MarkedBy (error : TaskError) (before after : RunResult) : Prop where
  /-- No case is added, and no other case than the open one changes. -/
  length : after.tests.length = before.tests.length
  kept : ∀ place, before.openCase ≠ some place → after.tests[place]? = before.tests[place]?
  /-- The open case, if there is one, failed with the error. -/
  interrupted : ∀ place, before.openCase = some place → ∃ case,
    before.tests[place]? = some case ∧ after.tests[place]? =
      some { case with status := .failed, trace := error.describe, interrupted := true }
  failures : after.failures = before.failures ++ [error.message]

/-- What is recorded when a run ends after others, before anything is made of its failure. -/
def onReturn (earlier : List (UnitRun E)) (run : UnitRun E) : RunResult :=
  (afterRuns false {} earlier).collectAll false run.told

private theorem openInside_onReturn (earlier : List (UnitRun E)) (run : UnitRun E) :
    (onReturn earlier run).OpenInside :=
  (openInside_empty.afterRuns false earlier).collectAll false run.told

private theorem afterRuns_concat {earlier : List (UnitRun E)} {run : UnitRun E}
    (hfailure : run.failure? = some error) :
    afterRuns false {} (earlier ++ [run]) = (onReturn earlier run).afterFailure false error := by
  rw [afterRuns_append, afterRuns, List.foldl_cons, List.foldl_nil, afterRun, hfailure]
  rfl

private theorem markedBy_afterFailure (h : result.OpenInside) :
    MarkedBy error result (result.afterFailure false error) where
  length := length_afterFailure false error result
  kept place hplace := by
    cases hopen : result.openCase with
    | none => simp [afterFailure, failOpen, closeOpen, hopen, runFailed]
    | some index =>
      have hne : index ≠ place := fun heq => hplace (heq ▸ hopen)
      simp [afterFailure, failOpen, closeOpen, hopen, runFailed, hne]
  interrupted place hopen := by
    have hcase := List.getElem?_eq_getElem (h place hopen)
    exact ⟨_, hcase, by simp [afterFailure, failOpen, closeOpen, hopen, runFailed, hcase]⟩
  failures := by simp [failures_afterFailure]

/-- A unit that failed in the middle of a test leaves its mark. -/
theorem markedBy_afterRuns {earlier : List (UnitRun E)} {run : UnitRun E}
    (hfailure : run.failure? = some error) :
    MarkedBy error (onReturn earlier run) (afterRuns false {} (earlier ++ [run])) := by
  rw [afterRuns_concat hfailure]
  exact markedBy_afterFailure (openInside_onReturn earlier run)

private theorem lasting_interrupted :
    Lasting false fun case => case.status = .failed ∧ case.interrupted = true where
  ignored case h := ⟨by simp [h.1, ignoredStatus], h.2⟩
  ended case _ h := ⟨by simp [h.1], h.2⟩
  failed _ _ _ h := ⟨rfl, h.2⟩
  interrupted _ _ _ _ := ⟨rfl, rfl⟩

/-- A case that a unit was interrupted in stays failed and interrupted through later runs. -/
theorem MarkedBy.interruptedAt {before after : RunResult} (h : MarkedBy error before after)
    (hopen : before.openCase = some place) (later : List (UnitRun E)) :
    CaseAt (fun case => case.status = .failed ∧ case.interrupted = true)
      (after.afterRuns false later).tests place := by
  obtain ⟨case, -, hmarked⟩ := h.interrupted place hopen
  exact CaseAt.afterRuns lasting_interrupted ⟨_, hmarked, rfl, rfl⟩ later

/-- A case that was interrupted does not count as complete. -/
theorem numComplete_eraseIdx (hcase : result.tests[place]? = some case)
    (hinterrupted : case.interrupted = true) :
    ({ result with tests := result.tests.eraseIdx place } : RunResult).numComplete =
      result.numComplete := by
  obtain ⟨hplace, hget⟩ := List.getElem?_eq_some_iff.mp hcase
  have hsplit : result.tests =
      result.tests.take place ++ case :: result.tests.drop (place + 1) := by
    rw [← hget, List.getElem_cons_drop, List.take_append_drop]
  have hcounted : result.numComplete =
      (result.tests.take place ++ case :: result.tests.drop (place + 1)).countP
        fun case => case.status ≠ .incomplete && !case.interrupted := by
    rw [← hsplit, numComplete]
  rw [hcounted, numComplete, List.eraseIdx_eq_take_drop_succ, List.countP_append,
    List.countP_append, List.countP_cons_of_neg (by simp [hinterrupted])]

private theorem joinLines_eq (text message : String) :
    ∃ between, joinLines text message = text ++ between ++ message := by
  unfold joinLines
  split
  · rename_i hempty
    exact ⟨"", by simp [String.isEmpty_iff.mp hempty]⟩
  · exact ⟨"\n", rfl⟩

private theorem foldl_joinLines (text : String) (messages : List String) :
    ∃ rest, messages.foldl joinLines text = text ++ rest := by
  induction messages generalizing text with
  | nil => exact ⟨"", by simp⟩
  | cons message messages ih =>
    obtain ⟨between, hjoined⟩ := joinLines_eq text message
    obtain ⟨rest, hrest⟩ := ih (joinLines text message)
    refine ⟨between ++ message ++ rest, ?_⟩
    rw [List.foldl_cons, hrest, hjoined]
    simp only [String.append_assoc]

/-- Every message that was noted is part of the text that is reported. -/
theorem failureMessage_of_mem (h : message ∈ result.failures) :
    ∃ before after, result.failureMessage = before ++ message ++ after := by
  obtain ⟨earlier, later, hfailures⟩ := List.append_of_mem h
  obtain ⟨between, hjoined⟩ := joinLines_eq (earlier.foldl joinLines "") message
  obtain ⟨rest, hrest⟩ :=
    foldl_joinLines (joinLines (earlier.foldl joinLines "") message) later
  refine ⟨earlier.foldl joinLines "" ++ between, rest, ?_⟩
  rw [failureMessage, hfailures, List.foldl_append, List.foldl_cons, hrest, hjoined]

private theorem runFailed_mem_replay (h : message ∈ result.failures) (id : String) (elapsed : Int) :
    .runFailed result.failureMessage ∈ result.replay id elapsed := by
  have hfailure : result.isFailure = true := by
    simpa [isFailure] using List.ne_nil_of_mem h
  simp [replay, hfailure]

end RunResult

namespace Module

variable {conducts : Conducts E} {module last : Module}
  {trace : List (Session.Exchange (World E))} {result : Exit}

/-- What a lost device leaves of a run if test cases are not skipped and everything is set up. The
unit that returns that its device is lost is the last one that runs or is handed anything. All cases
that were recorded until then stay as they were, except for the one that was open: it is replayed as
failed with the error and does not count as complete. The message is part of what is reported, every
cleanup is told of the error, and the error is returned. Units that failed otherwise before left
their marks and did not keep the next ones from running. -/
theorem partial_run_accounted (h : (run conducts).Ends module trace result last)
    (hfresh : module.Fresh)
    (hruns : ∀ strategy, .decided strategy ∈ Session.deeds trace → strategy = .run)
    (horderly : Session.Orderly trace) (hunits : ∀ unit ∈ module.tests, (conducts unit).Orderly) :
    ∃ (course : Course E) (elapsed : Int),
      course.Tells conducts module.attachDefaultDevice trace ∧
      InTurn Sending.event Sending.thrown? (last.result.replay module.id elapsed)
        course.report ∧
      (module.attachDefaultDevice.unprepared course.setUps = none →
        ∀ lost ∈ course.runs, ∀ error, lost.exit = .ok (.error error) →
          error.isDeviceLoss = true →
        ∃ earlier,
          course.CutShort module.attachDefaultDevice trace result earlier lost error ∧
          (Session.Calm trace → result = .ok (.error error)) ∧
          RunResult.MarkedBy error (.onReturn earlier lost) last.result ∧
          (∀ place case, (RunResult.onReturn earlier lost).openCase = some place →
            last.result.tests[place]? = some case →
            [.testStarted case.test, .testFailed case.test error.describe,
              .testEnded case.test case.metrics] <:+: last.result.replay module.id elapsed ∧
            ({ last.result with tests := last.result.tests.eraseIdx place } :
              RunResult).numComplete = last.result.numComplete) ∧
          (∃ before after,
            .runFailed (before ++ error.message ++ after) ∈
              last.result.replay module.id elapsed) ∧
          ∀ before run after, earlier = before ++ run :: after →
            ∀ failure, run.failure? = some failure →
              RunResult.MarkedBy failure (.onReturn before run)
                (.afterRuns false {} (before ++ [run])) ∧
              failure.message ∈ last.result.failures ∧
              ∀ place, (RunResult.onReturn before run).openCase = some place →
                RunResult.CaseAt (fun case => case.status = .failed ∧ case.interrupted = true)
                  last.result.tests place) := by
  obtain ⟨course, elapsed, hcourse, hrecorded, hreports⟩ :=
    follows_of_run h hfresh hruns horderly hunits
  refine ⟨course, elapsed, hcourse.toTells, hreports, ?_⟩
  intro hprepared lost hlost error hexit hloss
  obtain ⟨earlier, hcut⟩ := hcourse.cutShort hprepared hlost hexit hloss
  have hfailure : lost.failure? = some error := by
    rw [UnitRun.failure?, hexit]
    rfl
  have hfinal : last.result = .afterRuns false {} (earlier ++ [lost]) := by
    rw [hrecorded, Course.recorded, hcut.synthetic, hcut.runs]
  have hmarked : RunResult.MarkedBy error (.onReturn earlier lost) last.result :=
    hfinal ▸ RunResult.markedBy_afterRuns hfailure
  have hmessages : last.result.failures = (earlier ++ [lost]).flatMap UnitRun.messages := by
    rw [hfinal, RunResult.failures_afterRuns]
    rfl
  refine ⟨earlier, hcut, ?_, hmarked, ?_, ?_, ?_⟩
  · intro hcalm
    rw [hcut.result, Sending.comesTo, hcourse.reported_of_calm hcalm]
    rfl
  · intro place case hopen hcase
    obtain ⟨before, -, hinterrupted⟩ := hmarked.interrupted place hopen
    obtain rfl := Option.some.inj (hcase.symm.trans hinterrupted)
    refine ⟨?_, RunResult.numComplete_eraseIdx hcase rfl⟩
    have hreplayed := RunResult.caseEvents_infix hcase module.id elapsed
    rwa [RunResult.caseEvents_failed rfl] at hreplayed
  · have hnoted : error.message ∈ last.result.failures := by
      rw [hmarked.failures]
      simp
    obtain ⟨before, after, htext⟩ := RunResult.failureMessage_of_mem hnoted
    refine ⟨before, after, ?_⟩
    rw [← htext]
    exact RunResult.runFailed_mem_replay hnoted module.id elapsed
  · rintro before run after rfl failure hfailed
    have hmark : RunResult.MarkedBy failure (.onReturn before run)
        (.afterRuns false {} (before ++ [run])) :=
      RunResult.markedBy_afterRuns hfailed
    refine ⟨hmark, ?_, ?_⟩
    · rw [hmessages]
      simp [UnitRun.messages, hfailed]
    · intro place hopen
      have hlasts := hmark.interruptedAt hopen (after ++ [lost])
      rw [← RunResult.afterRuns_append] at hlasts
      rw [hfinal]
      simpa using hlasts

/-- A module of three units. -/
def shift : Module :=
  { suite with tests := [.plain 0 "first" [], .plain 1 "second" [], .plain 2 "third" []] }

/-- The first unit throws in the middle of a test, the second one loses its device there, and any
other returns. -/
def faltering (unit : TestUnit) : Conduct .silent :=
  .telling (told unit.id) (ended unit.id)
where
  boot : TestDescription := { className := "suite", testName := "boot" }
  call : TestDescription := { className := "suite", testName := "call" }
  told : Nat → List Event
    | 0 => [.testStarted boot]
    | 1 => [.testStarted call, .testEnded call .empty, .testStarted boot]
    | _ => [.testStarted call, .testEnded call .empty]
  ended : Nat → Exit
    | 0 => .error (.standard "abort")
    | 1 => .ok (.error (.deviceNotAvailable "gone" "d1"))
    | _ => .ok (.ok ())

private theorem orderly_faltering (unit : TestUnit) : (faltering unit).Orderly := by
  refine Conduct.orderly_telling ?_
  unfold faltering.ended
  split <;> nofun

/-- If everything is set up, the second unit of the shift runs and loses its device. -/
theorem exists_lost_faltering {course : Course .silent}
    {trace : List (Session.Exchange (World .silent))}
    (h : course.Tells faltering shift.attachDefaultDevice trace) (hcalm : Session.Calm trace)
    (hprepared : shift.attachDefaultDevice.unprepared course.setUps = none) :
    ∃ lost ∈ course.runs, lost.exit = .ok (.error (.deviceNotAvailable "gone" "d1")) := by
  have hexit : ∀ run ∈ course.runs, run.exit = faltering.ended run.unit.id := by
    intro run hrun
    exact (Conduct.told_telling (h.genuine run hrun).1
      fun _ _ hsent => h.heard_of_calm hcalm hrun _ hsent).2
  have hplays := h.plays
  rw [plannedUnits, hprepared] at hplays
  cases hstops : course.runs.findSome? UnitRun.loss? with
  | none =>
    -- No unit loses its device, so all of them run, the second one too.
    have hmem : .plain 1 "second" [] ∈ course.runs.map UnitRun.unit := by
      rw [hplays.map_eq hstops]
      decide
    obtain ⟨run, hrun, hunit⟩ := List.mem_map.mp hmem
    exact ⟨run, hrun, by rw [hexit run hrun, hunit]; rfl⟩
  | some error =>
    obtain ⟨run, hrun, hloss⟩ := List.exists_of_findSome?_eq_some hstops
    refine ⟨run, hrun, ?_⟩
    have hended := hexit run hrun
    unfold faltering.ended at hended
    split at hended
    · simp [UnitRun.loss?, UnitRun.failure?, hended, Exit.failure?, TaskError.isDeviceLoss] at hloss
      obtain ⟨rfl, hcategory⟩ := hloss
      cases hcategory
    · exact hended
    · simp [UnitRun.loss?, UnitRun.failure?, hended, Exit.failure?] at hloss

/-- The first unit throws in the middle of its test, the second loses its device there, and the
third is not run. -/
theorem partial_run_accounted_shift :
    let (trace, exit, last) :=
      shift.staged faltering (fun _ => .ok (.ok ())) fun _ => .ok (.ok ())
    let error : TaskError := .deviceNotAvailable "gone" "d1"
    ∃ (course : Course .silent) (earlier : List (UnitRun .silent)) (lost : UnitRun .silent),
      course.CutShort shift.attachDefaultDevice trace exit earlier lost error ∧
      exit = .ok (.error error) ∧
      RunResult.MarkedBy error (.onReturn earlier lost) last.result ∧
      last.result.tests.map (fun case => (case.test, case.status, case.interrupted)) =
        [(faltering.boot, .failed, true), (faltering.call, .passed, false),
          (faltering.boot, .failed, true)] := by
  obtain ⟨course, elapsed, htells, -, haccounted⟩ :=
    partial_run_accounted
      (ends_staged shift faltering (fun _ => .ok (.ok ())) fun _ => .ok (.ok ()))
      ⟨rfl, rfl, rfl⟩ (fun _ h => decided_staged _ _ _ _ h) (orderly_staged _ _ _ _ nofun nofun)
      (fun unit _ => orderly_faltering unit)
  have hcalm := calm_staged shift faltering (fun _ => .ok (.ok ())) fun _ => .ok (.ok ())
  have hprepared : shift.attachDefaultDevice.unprepared course.setUps = none := by
    rw [unprepared, htells.setUps_succeed fun call hmade => setUp_staged shift _ _ _ hmade]
    decide
  obtain ⟨lost, hlost, hexit⟩ := exists_lost_faltering htells hcalm hprepared
  obtain ⟨earlier, hcut, hreturned, hmarked, -⟩ := haccounted hprepared lost hlost _ hexit rfl
  exact ⟨course, earlier, lost, hcut, hreturned hcalm, hmarked, rfl⟩

end Module

end Fleet
