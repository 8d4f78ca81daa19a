import Fleet.Proofs.Module.Course
import Fleet.Proofs.Module.Staged

/-!
# What a module makes of failures

Whatever fails, all that was set up is cleaned up, backwards, and every cleanup is told of the same
failure. A lost device is returned, but only if it is the first failure that counts: that of a
cleanup does not count once something failed before it.
-/

namespace Fleet

variable {E : Interface}

/-- Among the failures of an operation whose exceptions are no losses, the losses are those it
returned. -/
theorem Exit.failure?_loss_iff (exit : Exit) (origin : String) {category : ErrorCategory}
    (hcategory : category ≠ .deviceNotAvailable) :
    (∃ error, exit.failure? origin category = some error ∧ error.isDeviceLoss = true) ↔
      exit.ReturnsLoss := by
  rcases exit with (what | _) | (error | ⟨⟩)
  · simp [Exit.failure?, Exit.ReturnsLoss, TaskError.isDeviceLoss, hcategory]
  · simp [Exit.failure?, Exit.ReturnsLoss]
  · simp [Exit.failure?, Exit.ReturnsLoss]
  · simp [Exit.failure?, Exit.ReturnsLoss]

private theorem Module.isDeviceLoss_withOrigin (name : String) (error : TaskError) :
    (Module.withOrigin name error).isDeviceLoss = error.isDeviceLoss := by
  unfold Module.withOrigin
  split
  · rfl
  · rfl

private theorem SetUp.failure?_loss_iff {call : SetUp} :
    (∃ error, call.failure? = some error ∧ error.isDeviceLoss = true) ↔ call.exit.ReturnsLoss := by
  have hsetup : ErrorCategory.targetSetup ≠ .deviceNotAvailable := nofun
  rw [← call.exit.failure?_loss_iff call.target.name hsetup, SetUp.failure?]
  cases call.exit.failure? call.target.name .targetSetup <;> simp [Module.isDeviceLoss_withOrigin]

private theorem TearDown.failure?_loss_iff {call : TearDown} :
    (∃ error, call.failure? = some error ∧ error.isDeviceLoss = true) ↔ call.exit.ReturnsLoss :=
  call.exit.failure?_loss_iff call.target.name (by decide)

/-- A run has lost its device exactly if it returns with the loss. -/
theorem UnitRun.loss?_iff {run : UnitRun E} :
    (∃ error, run.loss? = some error) ↔ run.exit.ReturnsLoss := by
  have hruntime : ErrorCategory.runtime ≠ .deviceNotAvailable := nofun
  rw [← run.exit.failure?_loss_iff run.unit.name hruntime]
  simp [UnitRun.loss?, UnitRun.failure?, Option.filter_eq_some_iff]

private theorem UnitRun.loss?_eq {run : UnitRun E} {error : TaskError}
    (hexit : run.exit = .ok (.error error)) (hloss : error.isDeviceLoss = true) :
    run.loss? = some error := by
  simp [UnitRun.loss?, UnitRun.failure?, hexit, Exit.failure?, hloss]

namespace Module

private theorem missingDevice_loss {module : Module} {entries : List (String × List Preparer)}
    {error : TaskError} (h : module.missingDevice entries = some error) :
    error.isDeviceLoss = false := by
  obtain ⟨entry, -, rfl⟩ := Option.map_eq_some_iff.mp h
  rfl

/-- Preparing fails for a lost device if and only if a call returned that it is lost. -/
theorem unprepared_loss_iff {module : Module} {targets : List Target} {setUps : List SetUp}
    (h : InTurn SetUp.target SetUp.failure? targets setUps) :
    (∃ error, module.unprepared setUps = some error ∧ error.isDeviceLoss = true) ↔
      ∃ call ∈ setUps, call.exit.ReturnsLoss := by
  constructor
  · rintro ⟨error, hunprepared, hloss⟩
    rw [unprepared] at hunprepared
    cases hstops : setUps.findSome? SetUp.failure? with
    | none =>
      rw [hstops] at hunprepared
      simp [missingDevice_loss hunprepared] at hloss
    | some failed =>
      rw [hstops] at hunprepared
      obtain rfl := Option.some.inj hunprepared
      obtain ⟨call, hcall, hfailed⟩ := List.exists_of_findSome?_eq_some hstops
      exact ⟨call, hcall, SetUp.failure?_loss_iff.mp ⟨failed, hfailed, hloss⟩⟩
  · rintro ⟨call, hcall, hreturns⟩
    obtain ⟨error, hfailed, hloss⟩ := SetUp.failure?_loss_iff.mpr hreturns
    refine ⟨error, ?_, hloss⟩
    rw [unprepared, h.findSome?_eq hcall hfailed]
    rfl

/-- Running units is ended by the unit that returned that the device is lost. -/
theorem lost_iff {units : List TestUnit} {runs : List (UnitRun E)}
    (h : InTurn UnitRun.unit UnitRun.loss? units runs) :
    (∃ error, runs.findSome? UnitRun.loss? = some error ∧ error.isDeviceLoss = true) ↔
      ∃ run ∈ runs, run.exit.ReturnsLoss := by
  constructor
  · rintro ⟨error, hlost, -⟩
    obtain ⟨run, hrun, hloss⟩ := List.exists_of_findSome?_eq_some hlost
    exact ⟨run, hrun, UnitRun.loss?_iff.mp ⟨error, hloss⟩⟩
  · rintro ⟨run, hrun, hreturns⟩
    obtain ⟨error, hloss⟩ := UnitRun.loss?_iff.mpr hreturns
    exact ⟨error, h.findSome?_eq hrun hloss, (Option.filter_eq_some_iff.mp hloss).2⟩

/-- A run returns an error if and only if what counts first is a lost device. -/
theorem outcomeOf_eq_error_iff {failure untidied : Option TaskError} {error : TaskError} :
    outcomeOf failure untidied = .error error ↔
      (failure <|> untidied) = some error ∧ error.isDeviceLoss = true := by
  unfold outcomeOf
  cases failure <|> untidied with
  | none => simp
  | some counted =>
    cases hloss : counted.isDeviceLoss with
    | false =>
      simp only [hloss]
      constructor
      · nofun
      · rintro ⟨⟨⟩, hnot⟩
        simp [hloss] at hnot
    | true =>
      simp only [hloss]
      constructor
      · rintro ⟨⟩
        exact ⟨rfl, hloss⟩
      · rintro ⟨⟨⟩, -⟩
        rfl

end Module

namespace Course

variable {conducts : Conducts E} {module ready last : Module} {course : Course E}
  {trace : List (Session.Exchange (World E))} {result : Exit}

/-- A lost device counts: a call to set up or a unit returned that it is lost, or nothing failed
before cleaning up and the first call to fail there did. -/
def CountsLoss (course : Course E) (ready : Module) : Prop :=
  (∃ call ∈ course.setUps, call.exit.ReturnsLoss) ∨
  (∃ run ∈ course.runs, run.exit.ReturnsLoss) ∨
  (course.failure ready = none ∧ ∃ earlier call later,
    course.tearDowns = earlier ++ call :: later ∧ (∀ other ∈ earlier, other.failure? = none) ∧
      call.exit.ReturnsLoss)

private theorem failure_loss_iff {targets : List Target}
    (hprepares : InTurn SetUp.target SetUp.failure? targets course.setUps)
    (hplays : InTurn UnitRun.unit UnitRun.loss? (ready.plannedUnits course.setUps) course.runs) :
    (∃ error, course.failure ready = some error ∧ error.isDeviceLoss = true) ↔
      (∃ call ∈ course.setUps, call.exit.ReturnsLoss) ∨
      (∃ run ∈ course.runs, run.exit.ReturnsLoss) := by
  rw [← Module.unprepared_loss_iff hprepares, ← Module.lost_iff hplays]
  unfold failure
  cases hunprepared : ready.unprepared course.setUps with
  | some error =>
    simp [Module.runs_eq_nil hplays hunprepared]
  | none => simp

/-- Cleaning up fails for a lost device if and only if the first call to fail returned that. -/
theorem untidied_loss_iff :
    (∃ error, course.untidied = some error ∧ error.isDeviceLoss = true) ↔
      ∃ earlier call later, course.tearDowns = earlier ++ call :: later ∧
        (∀ other ∈ earlier, other.failure? = none) ∧ call.exit.ReturnsLoss := by
  constructor
  · rintro ⟨error, huntidied, hloss⟩
    obtain ⟨earlier, call, later, hcalls, hfailed, hfirst⟩ :=
      List.findSome?_eq_some_iff.mp huntidied
    have hreturns := TearDown.failure?_loss_iff.mp ⟨error, hfailed, hloss⟩
    exact ⟨earlier, call, later, hcalls, hfirst, hreturns⟩
  · rintro ⟨earlier, call, later, hcalls, hfirst, hreturns⟩
    obtain ⟨error, hfailed, hloss⟩ := TearDown.failure?_loss_iff.mpr hreturns
    refine ⟨error, ?_, hloss⟩
    exact List.findSome?_eq_some_iff.mpr ⟨earlier, call, later, hcalls, hfailed, hfirst⟩

private theorem outcome_error_iff {targets : List Target}
    (hprepares : InTurn SetUp.target SetUp.failure? targets course.setUps)
    (hplays : InTurn UnitRun.unit UnitRun.loss? (ready.plannedUnits course.setUps) course.runs) :
    (∃ error, Module.outcomeOf (course.failure ready) course.untidied = .error error) ↔
      course.CountsLoss ready := by
  simp only [Module.outcomeOf_eq_error_iff, CountsLoss, ← or_assoc]
  rw [← failure_loss_iff hprepares hplays, ← untidied_loss_iff]
  cases course.failure ready <;> simp

/-- The course was cut short by the loss of a device: after these runs, this one lost it with this
error. -/
structure CutShort (course : Course E) (ready : Module)
    (trace : List (Session.Exchange (World E))) (result : Exit) (earlier : List (UnitRun E))
    (lost : UnitRun E) (error : TaskError) : Prop where
  /-- It was the last run, and the first one to lose the device. -/
  runs : course.runs = earlier ++ [lost]
  first : ∀ run ∈ earlier, run.loss? = none
  /-- The units ran in their order; those that are left did not. -/
  planned : ∃ rest, ready.tests.filter ready.allows = course.runs.map UnitRun.unit ++ rest
  /-- Only units that ran were handed anything. -/
  wirings : Session.wirings trace = course.runs.flatMap UnitRun.wirings
  /-- Whatever was cleaned up was told of the error. -/
  told : ∀ call ∈ course.tearDowns, call.told = some error
  /-- Nothing else is recorded outside of units. -/
  synthetic : course.synthetic ready = none
  /-- The error is returned, unless the listener throws at the report. -/
  result : result = (Sending.comesTo course.report).map fun () => .error error

/-- A unit that returns that its device is lost cuts the course short. -/
theorem Follows.cutShort (h : course.Follows conducts ready trace result last)
    (hprepared : ready.unprepared course.setUps = none) {lost : UnitRun E}
    (hlost : lost ∈ course.runs) {error : TaskError} (hexit : lost.exit = .ok (.error error))
    (hloss : error.isDeviceLoss = true) :
    ∃ earlier, course.CutShort ready trace result earlier lost error := by
  have hstops : lost.loss? = some error := UnitRun.loss?_eq hexit hloss
  have hfirst : course.runs.findSome? UnitRun.loss? = some error :=
    h.plays.findSome?_eq hlost hstops
  have hfailure : course.failure ready = some error := by
    simp [failure, hprepared, hfirst]
  obtain ⟨earlier, rest, hruns, hplanned, hearlier⟩ := h.plays.eq_concat hlost hstops
  refine ⟨earlier, hruns, hearlier, ⟨rest, ?_⟩, h.wirings, ?_, ?_, ?_⟩
  · simpa [Module.plannedUnits, hprepared] using hplanned
  · intro call hcall
    rw [h.told call hcall, hfailure]
  · simp [synthetic, hprepared, hfirst]
  · have houtcome : Module.outcomeOf (course.failure ready) course.untidied = .error error := by
      simp [Module.outcomeOf_eq_error_iff, hfailure, hloss]
    rw [h.result, houtcome]

end Course

namespace Module

variable {conducts : Conducts E} {module last : Module}
  {trace : List (Session.Exchange (World E))} {result : Exit}

/-- Setting up and cleaning up: calls to set up are made in turn for the enabled preparers, in their
order, up to the first that fails or the first name without a device. However they and the units
end, what was called for is cleaned up backwards, all devices at once before single ones, each with
the device and the build it was set up with. All calls to clean up are told of the same failure,
that of setting up or the loss that ended the units, and none keeps another from being made. -/
theorem setUps_undone_backwards (h : (run conducts).Ends module trace result last)
    (hfresh : module.Fresh)
    (hgoesOn : ∀ strategy, .decided strategy ∈ Session.deeds trace → strategy ≠ .fullModuleBypass)
    (horderly : Session.Orderly trace) (hunits : ∀ unit ∈ module.tests, (conducts unit).Orderly) :
    ∃ course : Course E, course.Tells conducts module.attachDefaultDevice trace ∧
      InTurn SetUp.target SetUp.failure? module.attachDefaultDevice.targets course.setUps ∧
      course.tearDowns.map TearDown.target =
        Target.backwards (course.setUps.map SetUp.target) ∧
      ∀ call ∈ course.tearDowns, call.told = course.failure module.attachDefaultDevice := by
  obtain ⟨course, -, hcourse⟩ := ends_run h hfresh hgoesOn horderly hunits
  exact ⟨course, hcourse.toTells, hcourse.prepares, hcourse.tidies, hcourse.told⟩

/-- The last of three preparers fails. -/
theorem setUps_undone_backwards_suite :
    let conducts : Conducts .silent := fun _ => .telling [] (.ok (.ok ()))
    let setUps := failingAt "wifi" (.targetSetup "no network")
    let (trace, _, _) := suite.staged conducts setUps fun _ => .ok (.ok ())
    ∃ course : Course .silent, course.Tells conducts suite.attachDefaultDevice trace ∧
      InTurn SetUp.target SetUp.failure? suite.attachDefaultDevice.targets course.setUps ∧
      course.tearDowns.map TearDown.target =
        Target.backwards (course.setUps.map SetUp.target) ∧
      ∀ call ∈ course.tearDowns, call.told = course.failure suite.attachDefaultDevice :=
  setUps_undone_backwards (ends_staged _ _ _ _) fresh_suite
    (fun _ h => by rw [decided_staged _ _ _ _ h]; nofun) (orderly_staged _ _ _ _ nofun nofun)
    (fun _ _ => Conduct.orderly_telling nofun)

/-- The return of a lost device: if no listener throws, the run returns, and it returns an error if
and only if a lost device counts. The error then says that the device is lost. -/
theorem loss_returned_iff_counts (h : (run conducts).Ends module trace result last)
    (hfresh : module.Fresh)
    (hgoesOn : ∀ strategy, .decided strategy ∈ Session.deeds trace → strategy ≠ .fullModuleBypass)
    (horderly : Session.Orderly trace) (hunits : ∀ unit ∈ module.tests, (conducts unit).Orderly) :
    ∃ course : Course E, course.Tells conducts module.attachDefaultDevice trace ∧
      (Session.Calm trace → ∃ outcome, result = .ok outcome) ∧
      ∀ outcome, result = .ok outcome →
        ((∃ error, outcome = .error error) ↔ course.CountsLoss module.attachDefaultDevice) ∧
        ∀ error, outcome = .error error → error.isDeviceLoss = true := by
  obtain ⟨course, -, hcourse⟩ := ends_run h hfresh hgoesOn horderly hunits
  refine ⟨course, hcourse.toTells, fun hcalm => ⟨_, hcourse.returns_of_calm hcalm⟩, ?_⟩
  intro outcome hreturned
  obtain rfl := hcourse.outcome_eq hreturned
  exact ⟨Course.outcome_error_iff hcourse.prepares hcourse.plays,
    fun error herror => (outcomeOf_eq_error_iff.mp herror).2⟩

/-- A device that only its last cleanup finds lost counts if nothing failed before. -/
theorem loss_returned_iff_counts_suite :
    let conducts : Conducts .silent := fun _ => .telling [] (.ok (.ok ()))
    let tearDowns := failingAt "flash" (.deviceNotAvailable "gone" "d1")
    let (trace, _, _) := suite.staged conducts (fun _ => .ok (.ok ())) tearDowns
    ∃ course : Course .silent, course.Tells conducts suite.attachDefaultDevice trace ∧
      course.CountsLoss suite.attachDefaultDevice := by
  obtain ⟨course, htells, -, hreturned⟩ :=
    loss_returned_iff_counts (ends_staged suite (fun _ => .telling [] (.ok (.ok ())))
        (fun _ => .ok (.ok ())) (failingAt "flash" (.deviceNotAvailable "gone" "d1")))
      fresh_suite (fun _ h => by rw [decided_staged _ _ _ _ h]; nofun)
      (orderly_staged _ _ _ _ nofun nofun) (fun _ _ => Conduct.orderly_telling nofun)
  exact ⟨course, htells, (hreturned _ rfl).1.mp ⟨_, rfl⟩⟩

/-- The cleanup of the device set up last fails, and that of an earlier one finds it lost. -/
def lossAfterFailure (target : Target) : Exit :=
  if target.name = "wifi" then .ok (.error (.targetSetup "no network"))
  else failingAt "flash" (.deviceNotAvailable "gone" "d1") target

/-- A failure of another kind hides a device that is found lost later. -/
theorem loss_hidden_by_earlier_failure :
    let conducts : Conducts .silent := fun _ => .telling [] (.ok (.ok ()))
    let (trace, exit, _) := suite.staged conducts (fun _ => .ok (.ok ())) lossAfterFailure
    (∃ call, .tornDown call ∈ Session.deeds trace ∧ call.exit.ReturnsLoss) ∧
      exit = .ok (.ok ()) := by
  let call : TearDown :=
    { target := .device { id := 0, name := "flash", cleaner := true } { serial := "d1" } none
      told := none
      exit := .ok (.error (.deviceNotAvailable "gone" "d1")) }
  refine ⟨⟨call, ?_, _, rfl, rfl⟩, ?_⟩
  · exact List.mem_of_getElem? (i := 6) rfl
  · rfl

end Module

end Fleet
