import Fleet.Proofs.Sim.Module

/-!
# Units that run once

What is counted of a unit, whether it is a simulated unit or the simulated module: run by a poller,
it amounts to one run, which failed if and only if a device dropped; asked to report that it did not
run, it amounts to one failed run.
-/

namespace Fleet

open Performance (Heard told)

namespace Sim

variable {allowlist : Names} {resources : Resources} {ended : Exit}
  {played : List (Session.Exchange (stage.sum Backstage))}

/-- The simulated module with what a poller hands to it. -/
def equipped (resources : Resources) (allowlist : Names) : Module :=
  (resources.received Module.capabilities).foldl Module.receive (module allowlist)

/-- The device that a poller hands to the module is there for all its preparers. -/
theorem missingDevice_equipped :
    (equipped resources allowlist).attachDefaultDevice.missingDevice
      (equipped resources allowlist).attachDefaultDevice.preparers = none := by
  obtain ⟨device, build⟩ := resources
  cases build <;> rfl

private theorem fresh_equipped : (equipped resources allowlist).Fresh :=
  ⟨rfl, rfl, rfl⟩

/-- If all is granted, setting up and cleaning up leave no case of their own. -/
theorem synthetic_equipped {course : Course Backstage}
    {trace : List (Session.Exchange (World Backstage))}
    (hdeeds : Session.deeds trace = course.deeds) (hgranted : Session.Granted trace) :
    course.synthetic (equipped resources allowlist).attachDefaultDevice = none := by
  have hsetUps : course.setUps.findSome? SetUp.failure? = none := by
    refine List.findSome?_eq_none_iff.mpr fun call hcall => ?_
    have hdone : .setUp call ∈ Session.deeds trace := by
      rw [hdeeds, Course.deeds]
      simp [hcall]
    have hexit : call.exit = .ok (.ok ()) := hgranted.deed hdone
    rw [SetUp.failure?, hexit]
    rfl
  have hprepared : (equipped resources allowlist).attachDefaultDevice.unprepared course.setUps =
      none := by
    rw [Module.unprepared, hsetUps, missingDevice_equipped]
    rfl
  have htidy : course.untidied = none := by
    refine List.findSome?_eq_none_iff.mpr fun call hcall => ?_
    have hdone : .tornDown call ∈ Session.deeds trace := by
      rw [hdeeds, Course.deeds]
      simp [hcall]
    have hexit : call.exit = .ok (.ok ()) := hgranted.deed hdone
    rw [TearDown.failure?, hexit]
    rfl
  rw [Course.synthetic, hprepared, htidy]
  cases course.runs.findSome? UnitRun.loss? <;> rfl

/-- If all is granted, a controller that was asked has let the module run. -/
theorem decided_of_granted {course : Course Backstage}
    {trace : List (Session.Exchange (World Backstage))}
    (hdeeds : Session.deeds trace = course.deeds) (hgranted : Session.Granted trace) :
    course.decisions.head?.getD .run = .run := by
  cases hdecisions : course.decisions with
  | nil => rfl
  | cons strategy rest =>
    have hdecided : .decided strategy ∈ Session.deeds trace := by
      rw [hdeeds, Course.deeds]
      simp [hdecisions]
    exact hgranted.deed hdecided

/-- If all is granted, the module returns, tells of one run, which failed if a device dropped, and
its units run no errands but looks. -/
theorem ends_run_equipped {last : Module} {trace : List (Session.Exchange (World Backstage))}
    (h : (Module.run (conducts moduleParts)).Ends (equipped resources allowlist) trace ended last)
    (hgranted : Session.Granted trace) :
    (∃ outcome, ended = .ok outcome) ∧
      AmountsTo (Session.sent trace) 1 (drops (Session.dealings trace)) ∧
      ∀ exchange ∈ Session.dealings trace, IsLook exchange := by
  have hgoesOn : ∀ strategy, .decided strategy ∈ Session.deeds trace →
      strategy ≠ .fullModuleBypass := by
    intro strategy hdecided hbypass
    have hrun : strategy = .run := hgranted.deed hdecided
    rw [hrun] at hbypass
    cases hbypass
  obtain ⟨course, hstrategy, hcourse⟩ := Module.ends_run h fresh_equipped hgoesOn
    hgranted.orderly fun unit _ => orderly_conducts moduleParts unit
  have hskips : last.skipsTests = false := by
    rw [Module.skipsTests, hstrategy, decided_of_granted hcourse.deeds hgranted]
    rfl
  have hparts : ∀ run ∈ course.runs, Part run := fun run hrun =>
    part_of_genuine (hcourse.genuine run hrun).1 (hcourse.heard_of_calm hgranted.calm hrun)
  obtain ⟨hfailures, hle⟩ := failures_afterRuns {} hparts hcourse.plays
  have hresult : last.result = RunResult.afterRuns false {} course.runs := by
    rw [hcourse.recorded, Course.recorded, synthetic_equipped hcourse.deeds hgranted, hskips]
  rw [← hresult, ← hcourse.dealings, List.length_nil, Nat.zero_add] at hfailures
  rw [← hcourse.dealings] at hle
  refine ⟨⟨_, hcourse.returns_of_calm hgranted.calm⟩, ?_, ?_⟩
  · obtain ⟨elapsed, hreport⟩ := hcourse.reports
    rw [hcourse.sent, hreport.map_eq (hcourse.reported_of_calm hgranted.calm)]
    rw [← hfailures] at hle ⊢
    have hall := (amountsTo_logs fun _ => hcourse.relays.isLog).append
      (amountsTo_replay (equipped resources allowlist).attachDefaultDevice.id elapsed hle)
    rwa [Nat.zero_add, Nat.zero_add] at hall
  · rw [hcourse.dealings]
    intro exchange hexchange
    obtain ⟨played, hplayed, hdealt⟩ := List.mem_filterMap.mp hexchange
    obtain ⟨run, hrun, hmem⟩ := List.mem_flatMap.mp hplayed
    exact (hparts run hrun).looks exchange (List.mem_filterMap.mpr ⟨played, hmem, hdealt⟩)

/-- Whether a module is kept in an exchange. -/
def isKeep : Session.Exchange Backstage → Bool
  | ⟨.inr (.keep _), _⟩ => true
  | _ => false

/-- The exchange hands no event to a listener. -/
def Unsent (exchange : Session.Exchange Backstage) : Prop :=
  ∀ outlet event, exchange.question ≠ .inl (.send outlet event)

private theorem IsLook.unsent {exchange : Session.Exchange Backstage} (h : IsLook exchange) :
    Unsent exchange := by
  obtain ⟨device, hquestion⟩ := h
  intro outlet event
  rw [hquestion]
  nofun

private theorem IsLook.isKeep_eq {exchange : Session.Exchange Backstage} (h : IsLook exchange) :
    isKeep exchange = false := by
  obtain ⟨_, answer⟩ := exchange
  obtain ⟨device, rfl⟩ := h
  rfl

/-- Whoever looks up the module before one is kept finds this one. -/
def FindsFirst (module : Module) (dealings : List (Session.Exchange Backstage)) : Prop :=
  ∀ earlier found later, dealings = earlier ++ ⟨.inr .kept, found⟩ :: later →
    (∀ exchange ∈ earlier, isKeep exchange = false) → found = module

namespace FindsFirst

variable {module : Module} {exchange : Session.Exchange Backstage}
  {before after : List (Session.Exchange Backstage)}

/-- What is found first is found first after a part in which nothing is kept. -/
theorem of_append (h : FindsFirst module (before ++ after))
    (hbefore : ∀ exchange ∈ before, isKeep exchange = false) : FindsFirst module after := by
  intro earlier found later hafter hearlier
  exact h (before ++ earlier) found later (by rw [hafter, List.append_assoc])
    (List.forall_mem_append.mpr ⟨hbefore, hearlier⟩)

/-- What is found first in the whole is found first in its beginning. -/
theorem left_of_append (h : FindsFirst module (before ++ after)) : FindsFirst module before := by
  intro earlier found later hbefore hearlier
  exact h earlier found (later ++ after) (by rw [hbefore, List.append_assoc]; rfl) hearlier

/-- An exchange in which nothing else is found may come first. -/
theorem cons (h : FindsFirst module after)
    (hfirst : ∀ found, exchange = ⟨.inr .kept, found⟩ → found = module) :
    FindsFirst module (exchange :: after) := by
  intro earlier found later hsplit hearlier
  cases earlier with
  | nil => exact hfirst found (List.cons.inj hsplit).1
  | cons first earlier =>
    exact h earlier found later (List.cons.inj hsplit).2 (List.forall_mem_cons.mp hearlier).2

/-- An exchange that is not about what is kept may come first. -/
theorem cons_of_ne (h : FindsFirst module after) (hother : exchange.question ≠ .inr .kept) :
    FindsFirst module (exchange :: after) :=
  h.cons fun _ hfirst => absurd (congrArg Session.Exchange.question hfirst) hother

/-- After a module was kept anything may be found. -/
theorem of_kept {last : Module} :
    FindsFirst module (⟨.inr (.keep last), ()⟩ :: after) := by
  intro earlier found later hsplit hearlier
  cases earlier with
  | nil =>
    have hquestion := congrArg Session.Exchange.question (List.cons.inj hsplit).1
    cases hquestion
  | cons first earlier =>
    have hfirst := (List.forall_mem_cons.mp hearlier).1
    rw [← (List.cons.inj hsplit).1] at hfirst
    cases hfirst

end FindsFirst

/-- Run by a poller and granted all it asks for, the unit returns, and with what closes it, what it
tells amounts to one run, which failed if a device dropped. Asked to report that it did not run, it
tells what amounts to one failed run. A unit that keeps a module has to find this one first. -/
structure RunsOnce (home : Option Module) (unit : TestUnit) (conduct : Conduct Backstage) :
    Prop where
  capability : unit.capabilities.notExecutedReport = true
  options : conduct.options = .ok []
  plain : ∀ received, Performance.Plain (conduct.run received)
  run : ∀ {resources : Resources} {played : List (Session.Exchange (stage.sum Backstage))}
    {ended : Exit}, (conduct.run (resources.received unit.capabilities)).Path played ended →
    Heard played → Session.Granted (Session.dealings played) →
    (∀ module ∈ home, FindsFirst module (Session.dealings played)) →
    (∃ outcome, ended = .ok outcome) ∧
      AmountsTo (told played ++ Poller.remainder (told played) ended) 1
        (drops (Session.dealings played)) ∧
      (∀ exchange ∈ Session.dealings played, Unsent exchange) ∧
      (home = none → ∀ exchange ∈ Session.dealings played, isKeep exchange = false)
  report : ∀ message, ∃ events, conduct.reportNotExecuted message = Performance.sendAll events ∧
    AmountsTo events 1 1

/-- A simulated unit is run once. -/
theorem SimUnit.runsOnce (sim : SimUnit) (id : Nat) : RunsOnce none (sim.unit id) sim.conduct where
  capability := rfl
  options := rfl
  plain _ := polite_run.plain
  run h hheard _ _ := by
    obtain ⟨hplayed, hlooks⟩ := played_of_run h hheard
    refine ⟨?_, hplayed.amountsTo, fun exchange hexchange => (hlooks exchange hexchange).unsent,
      fun _ exchange hexchange => (hlooks exchange hexchange).isKeep_eq⟩
    rcases hplayed.decided with ⟨-, hended⟩ | ⟨-, error, hended, -⟩ <;> exact ⟨_, hended⟩
  report message := ⟨_, rfl, amountsTo_failedRun (List.forall_mem_nil _)⟩

private theorem drops_onStageAs (trace : List (Session.Exchange (World Backstage))) :
    drops (Session.dealings (trace.map Module.onStageAs)) = drops (Session.dealings trace) := by
  induction trace with
  | nil => rfl
  | cons exchange rest ih =>
    obtain ⟨question | errand, answer⟩ := exchange
    · cases question <;> exact ih
    · have hcons (others : List (Session.Exchange Backstage)) :
          drops (⟨errand, answer⟩ :: others) = drops [⟨errand, answer⟩] + drops others :=
        drops_append [⟨errand, answer⟩] others
      exact (hcons _).trans ((congrArg _ ih).trans (hcons _).symm)

/-- What is granted on stage is granted to the module. -/
theorem granted_of_onStageAs {trace : List (Session.Exchange (World Backstage))}
    (hheard : Heard (trace.map Module.onStageAs))
    (hgranted : Session.Granted (Session.dealings (trace.map Module.onStageAs))) :
    Session.Granted trace := by
  intro exchange hexchange
  have hmem := List.mem_map_of_mem (f := Module.onStageAs) hexchange
  obtain ⟨question | errand, answer⟩ := exchange
  · cases question with
    | send => exact hheard _ hmem
    | _ => exact hgranted _ (List.mem_filterMap.mpr ⟨_, hmem, rfl⟩)
  · trivial

/-- A module is looked up. -/
def lookUp (found : Module) : Session.Exchange Backstage :=
  ⟨.inr .kept, found⟩

/-- A module is kept. -/
def keeping (last : Module) : Session.Exchange Backstage :=
  ⟨.inr (.keep last), ()⟩

private theorem drops_cons_lookUp {found : Module} {dealings : List (Session.Exchange Backstage)} :
    drops (lookUp found :: dealings) = drops dealings :=
  (drops_append [lookUp found] dealings).trans (Nat.zero_add _)

private theorem drops_keeping {last : Module} : drops [keeping last] = 0 :=
  rfl

/-- The module is looked up, has its run on stage, and is kept as the run leaves it. -/
theorem path_conduct {id : String} {parts : Conducts Backstage} {received : List Dependency}
    (h : ((Module.conduct id parts (own .kept) fun module => own (.keep module)).run
      received).Path played ended) :
    ∃ found trace last, (Module.run parts).Ends (received.foldl Module.receive found) trace ended
        last ∧
      Session.dealings played =
        lookUp found :: (Session.dealings (trace.map Module.onStageAs) ++ [keeping last]) ∧
      told played = Session.sent trace ∧ (Heard played → Heard (trace.map Module.onStageAs)) := by
  obtain ⟨found, rest, rfl, hperformed⟩ := Session.path_ask.mp h
  change (Session.bind (Module.perform parts found received) fun result =>
    Session.bind (own (.keep result.2)) fun _ => pure result.1).Path rest ended at hperformed
  obtain ⟨⟨exit, last⟩, performing, _, rfl, hperform, hkeep⟩ := Session.path_bind.mp hperformed
  obtain ⟨⟨⟩, _, rfl, hdone⟩ := Session.path_ask.mp hkeep
  obtain ⟨rfl, rfl⟩ := Session.path_done.mp hdone
  obtain ⟨trace, hpath, rfl⟩ := Module.path_onStage hperform
  refine ⟨found, trace, last, hpath, congrArg (_ :: ·) (Session.dealings_append _ _), ?_, ?_⟩
  · exact (Performance.told_append _ _).trans
      ((List.append_nil _).trans Module.told_onStageAs)
  · exact fun hheard exchange hexchange =>
      hheard exchange (List.mem_cons_of_mem _ (List.mem_append_left _ hexchange))

private theorem plain_conduct {id : String} {parts : Conducts Backstage}
    {received : List Dependency} :
    Performance.Plain ((Module.conduct id parts (own .kept) fun module =>
      own (.keep module)).run received) := by
  intro found
  have hkeep (result : Exit × Module) : Performance.Plain (E := Backstage)
      ((own (.keep result.2)).bind fun _ => pure result.1) :=
    fun _ => trivial
  have hperform : Performance.Plain (Module.perform parts found received) := Module.plain_onStage
  exact hperform.bind hkeep

/-- The simulated module runs once if it is the one that is found first. -/
theorem runsOnce_module (allowlist : Names) (id : Nat) :
    RunsOnce (some (module allowlist)) (moduleUnit (module allowlist) id)
      (Module.conduct (module allowlist).id (conducts moduleParts) (own .kept)
        fun module => own (.keep module)) where
  capability := rfl
  options := rfl
  plain _ := plain_conduct
  run {resources played ended} h hheard hgranted hfinds := by
    obtain ⟨found, trace, last, hends, hdealings, htold, hstaged⟩ := path_conduct h
    rw [hdealings] at hgranted hfinds ⊢
    obtain rfl : found = module allowlist := hfinds _ rfl [] found _ rfl (List.forall_mem_nil _)
    obtain ⟨houtcome, hamounts, hlooks⟩ :=
      ends_run_equipped hends (granted_of_onStageAs (hstaged hheard) fun exchange hexchange =>
        hgranted exchange (List.mem_cons_of_mem _ (List.mem_append_left _ hexchange)))
    have hremainder : Poller.remainder (told played) ended = [] := by
      unfold Poller.remainder
      split
      · rw [htold, hamounts.closed]
        rfl
      · rfl
    refine ⟨houtcome, ?_, ?_, nofun⟩
    · rw [hremainder, List.append_nil, htold, drops_cons_lookUp, drops_append, drops_keeping,
        drops_onStageAs]
      exact hamounts
    · refine List.forall_mem_cons.mpr ⟨fun _ _ => nofun, List.forall_mem_append.mpr
        ⟨fun exchange hexchange => ?_, List.forall_mem_singleton.mpr fun _ _ => nofun⟩⟩
      rcases Module.mem_dealings_onStageAs hexchange with hdealt | ⟨question, hquestion, hsend⟩
      · exact (hlooks exchange hdealt).unsent
      · intro outlet event hsent
        exact hsend outlet event (Sum.inl.inj (hquestion.symm.trans hsent))
  report message := ⟨_, rfl, amountsTo_failedRun (List.forall_mem_nil _)⟩

end Sim

end Fleet
