import Fleet.Proofs.Module.OnStage
import Fleet.Proofs.Module.Report
import Fleet.Proofs.Sim.Units
import Fleet.Sim.Simulation

/-!
# Runs of the simulated module

If all it asks for is granted, the simulated module sets up and cleans up without a failure. So it
reports one run, which failed if and only if a device dropped while one of its units ran.
-/

namespace Fleet

open Performance (Heard told)

namespace Session

variable {E : Interface}

/-- Nothing is thrown, setting up and cleaning up succeed, and a controller lets a module run. -/
def Exchange.Granted (exchange : Exchange (World E)) : Prop :=
  match exchange.question, exchange.answer with
  | .inl (.send ..), answer | .inl (.provide ..), answer | .inl (.collectorInit ..), answer =>
    answer = .ok ()
  | .inl (.setUp ..), answer | .inl (.setUpAll ..), answer | .inl (.tearDown ..), answer
  | .inl (.tearDownAll ..), answer => answer = .ok (.ok ())
  | .inl (.shouldRun ..), answer => answer = .run
  | _, _ => True

/-- All that is asked for is granted. -/
def Granted (trace : List (Exchange (World E))) : Prop :=
  ∀ exchange ∈ trace, exchange.Granted

variable {trace : List (Exchange (World E))}

/-- Where all is granted, nobody throws. -/
theorem Granted.calm (h : Granted trace) : Calm trace := by
  intro exchange hexchange
  have hgranted := h exchange hexchange
  obtain ⟨question | errand, answer⟩ := exchange
  · cases question <;> first | exact hgranted | trivial
  · trivial

/-- Where all is granted, everything ends in order. -/
theorem Granted.orderly (h : Granted trace) : Orderly trace := by
  intro exchange hexchange
  have hgranted := h exchange hexchange
  obtain ⟨question | errand, answer⟩ := exchange
  · cases question <;> first | exact hgranted | trivial | (cases hgranted; nofun)
  · trivial

/-- What is done where all is granted succeeds. -/
theorem Granted.deed (h : Granted trace) {deed : Deed E} (hdeed : deed ∈ deeds trace) :
    match deed with
    | .decided strategy => strategy = .run
    | .setUp call => call.exit = .ok (.ok ())
    | .tornDown call => call.exit = .ok (.ok ())
    | _ => True := by
  obtain ⟨⟨question | errand, answer⟩, hexchange, hdeed⟩ := List.mem_filterMap.mp hdeed
  · have hgranted := h _ hexchange
    cases question <;> cases hdeed <;> first | exact hgranted | trivial
  · cases hdeed
    trivial

end Session

namespace RunResult

variable {E : Interface} {skip : Bool} {result : RunResult} {events : List Event}

/-- Where no run is said to fail, no failure is recorded. -/
theorem failures_of_untold (h : ∀ event ∈ events, ∀ message, event ≠ .runFailed message) :
    (result.collectAll skip events).failures = result.failures := by
  have huntold : events.filterMap Event.failure? = [] := by
    refine List.filterMap_eq_nil_iff.mpr fun event hevent => ?_
    cases event with
    | runFailed message => exact absurd rfl (h _ hevent message)
    | _ => rfl
  rw [failures_collectAll, huntold, ite_self, List.append_nil]

end RunResult

namespace Sim

variable {ended : Exit} {played : List (Session.Exchange (stage.sum Backstage))}

/-- The run of a unit that tells of no failure, runs no errand but looks, and fails if and only if a
device drops: it has then lost the device. -/
structure Part (run : UnitRun Backstage) : Prop where
  told : ∀ event ∈ run.told, ∀ message, event ≠ .runFailed message
  looks : ∀ exchange ∈ Session.dealings run.played, IsLook exchange
  decided : Decided (drops (Session.dealings run.played)) run.exit

/-- Simulated units end in order. -/
theorem orderly_conducts (units : List SimUnit) (unit : TestUnit) :
    (conducts units unit).Orderly := by
  intro received played ended h horderly
  unfold conducts at h
  split at h
  · exact SimUnit.polite_run.orderly played ended h horderly
  · obtain ⟨-, rfl⟩ := Session.path_pure.mp h
    nofun

/-- A simulated unit among others that is heard is such a part. -/
theorem part_of_genuine {units : List SimUnit} {run : UnitRun Backstage}
    (h : run.Genuine (conducts units)) (hheard : Heard run.played) : Part run := by
  unfold UnitRun.Genuine conducts at h
  split at h
  · obtain ⟨hplayed, hlooks⟩ := SimUnit.played_of_run h hheard
    refine ⟨?_, hlooks, hplayed.decided⟩
    rintro event hevent message rfl
    exact hplayed.runFailed_not_mem hevent
  · obtain ⟨hplayed, hended⟩ := Session.path_pure.mp h
    refine ⟨?_, ?_, ?_⟩
    · simp [UnitRun.told, hplayed, told]
    · rw [hplayed]
      exact List.forall_mem_nil _
    · rw [hplayed, hended]
      exact .inl ⟨rfl, rfl⟩

variable {runs : List (UnitRun Backstage)} {plan : List TestUnit}

/-- The units in turn: a device drops once at most, and then that is the only failure. -/
theorem failures_afterRuns (result : RunResult) (hparts : ∀ run ∈ runs, Part run)
    (h : InTurn UnitRun.unit UnitRun.loss? plan runs) :
    (result.afterRuns false runs).failures.length =
        result.failures.length + drops (Session.dealings (runs.flatMap (·.played))) ∧
      drops (Session.dealings (runs.flatMap (·.played))) ≤ 1 := by
  induction h generalizing result with
  | finished => exact ⟨rfl, Nat.zero_le _⟩
  | @stopped run rest reason hstopped =>
    have hpart := hparts run List.mem_cons_self
    rw [List.flatMap_singleton]
    rcases hpart.decided with ⟨hdrops, hended⟩ | ⟨hdrops, error, hended, hloss⟩
    · simp [UnitRun.loss?, UnitRun.failure?, hended, Exit.failure?] at hstopped
    · have hfailure : run.failure? = some error := by rw [UnitRun.failure?, hended]; rfl
      refine ⟨?_, Nat.le_of_eq hdrops⟩
      rw [RunResult.afterRuns, List.foldl_cons, List.foldl_nil, RunResult.afterRun, hfailure,
        hdrops]
      dsimp only
      rw [RunResult.failures_afterFailure, RunResult.failures_of_untold hpart.told]
      exact List.length_append
  | @goesOn run rest runs hgoesOn _ ih =>
    obtain ⟨hpart, hothers⟩ := List.forall_mem_cons.mp hparts
    rcases hpart.decided with ⟨hdrops, hended⟩ | ⟨hdrops, error, hended, hloss⟩
    · have hfailure : run.failure? = none := by rw [UnitRun.failure?, hended]; rfl
      obtain ⟨hfailures, hle⟩ := ih (result.afterRun false run) hothers
      rw [List.flatMap_cons, Session.dealings_append, drops_append, hdrops, Nat.zero_add]
      refine ⟨?_, hle⟩
      rw [RunResult.afterRuns, List.foldl_cons, ← RunResult.afterRuns, hfailures,
        RunResult.afterRun, hfailure]
      dsimp only
      rw [RunResult.failures_of_untold hpart.told]
    · simp [UnitRun.loss?, UnitRun.failure?, hended, Exit.failure?, hloss] at hgoesOn

/-- Results are replayed as one run, which failed if a failure was recorded. -/
theorem amountsTo_replay {result : RunResult} (id : String) (elapsed : Int)
    (hfailures : result.failures.length ≤ 1) :
    AmountsTo (result.replay id elapsed) 1 result.failures.length := by
  have hcases : ∀ event ∈ result.tests.flatMap RunResult.caseEvents, event.isCase = true := by
    intro event hevent
    obtain ⟨case, -, hcase⟩ := List.mem_flatMap.mp hevent
    exact RunResult.isCase_caseEvents event hcase
  rw [RunResult.replay, RunResult.isFailure]
  rcases hmessages : result.failures with _ | ⟨message, _ | ⟨other, rest⟩⟩
  · simpa using amountsTo_run hcases
  · simpa using amountsTo_failedRun hcases
  · rw [hmessages] at hfailures
    simp at hfailures

/-- Log entries amount to nothing. -/
theorem amountsTo_logs {events : List Event} (h : ∀ event ∈ events, event.isLog = true) :
    AmountsTo events 0 0 := by
  refine amountsTo_nil.of_ordinary ?_
  rw [List.filter_eq_nil_iff.mpr fun event hevent => by simp [h event hevent]]
  rfl

end Sim

end Fleet
