import Fleet.Poller.Step
import Fleet.Proofs.Poller.Report
import Fleet.Proofs.Pool.Exhaustion

/-!
# The moves of a poller

One step of a poller is one of five moves: it seeks a unit, it handles the unit it has, it signs
out, it reports what never ran, or it rests. A move says all a step does to the floor and to the
poller's books; only the lifecycle and the listeners are left open.
-/

namespace Fleet

variable {E : Interface}

/-- The validation of its options, as a poller asks for it, refuses the unit. -/
def Conduct.Refuses (conduct : Conduct E) (unit : TestUnit) : Prop :=
  ∃ error, conduct.validate "validation" unit.name = .ok (.error error)

namespace Phase

/-- Where a poller looks for a unit, and what it goes on to if it finds none. -/
inductive Seeks : Phase → Phase → Prop
  | gated : Seeks .seekingGated .seekingGeneric
  | generic : Seeks .seekingGeneric (.leaving (.ok (.ok ())))

/-- What it says about a pool that a look for a unit was in vain. -/
def Vain (serial : String) (pool : WorkPool) : Phase → Prop
  | .seekingGated => pool.TurnedDown serial
  | .seekingGeneric => pool.generic = []
  | _ => True

/-- The unit the poller is about to run or drop. -/
def inHand : Phase → List TestUnit
  | .dispatching unit | .executing unit => [unit]
  | _ => []

/-- The unit a phase begins to run. -/
def started : Phase → List TestUnit
  | .executing unit => [unit]
  | _ => []

/-- What follows the validation of a unit's options. -/
def afterValidation (unit : TestUnit) : Except Thrown Outcome → Phase
  | .ok (.ok ()) => .executing unit
  | .ok (.error _) => .seekingGated
  | .error thrown => .leaving (.error thrown)

/-- What follows a run of a unit: only a lost device and what is thrown keep the poller from going
on. -/
def afterRun (recovers : Bool) (unit : TestUnit) : Except Thrown Outcome → Phase
  | .ok (.ok ()) => .seekingGated
  | .ok (.error error) =>
    if error.isDeviceLoss then
      if recovers then .recovering unit error else .leaving (.ok (.error error))
    else .seekingGated
  | .error thrown => .leaving (.error thrown)

/-- The unit that is dropped between two phases. -/
def dropped : Phase → Phase → List TestUnit
  | .dispatching unit, .seekingGated => [unit]
  | _, _ => []

/-- What the phases between two looks for a unit lead to, with the units dropped on the way. They
crash only if something was thrown at them that tame units do not throw. -/
inductive Handles (conducts : Conducts E) (trace : List (Session.Exchange (World E))) :
    Phase → Phase → List TestUnit → Prop
  | wired (huneventful : Session.Uneventful trace) : Handles conducts trace .wiringCollectors
      .seekingGated []
  | dropped {unit : TestUnit} (hrefuses : (conducts unit).Refuses unit)
      (huneventful : Session.Uneventful trace) :
      Handles conducts trace (.dispatching unit) .seekingGated [unit]
  | validated {unit : TestUnit} (huneventful : Session.Uneventful trace) :
      Handles conducts trace (.dispatching unit) (.executing unit) []
  | executed {unit : TestUnit} {next : Phase}
      (honce : Session.Calm trace → Poller.RunsOnce (conducts unit) trace)
      (hnext : next = .seekingGated ∨ (∃ error, next = .recovering unit error) ∨
        ∃ error, next = .leaving (.ok (.error error))) :
      Handles conducts trace (.executing unit) next []
  | recovered {unit : TestUnit} {error : TaskError} (huneventful : Session.Uneventful trace) :
      Handles conducts trace (.recovering unit error) .seekingGated []
  | lost {unit : TestUnit} {error : TaskError} {failure : TaskError}
      (huneventful : Session.Uneventful trace) :
      Handles conducts trace (.recovering unit error) (.leaving (.ok (.error failure))) []
  | crashed {phase : Phase} {thrown : Thrown}
      (hphase : phase = .wiringCollectors ∨ (∃ unit, phase = .dispatching unit) ∨
        ∃ unit, phase = .executing unit)
      (hcause : (∀ unit ∈ phase.inHand, (conducts unit).Tame) → ¬Session.Calm trace) :
      Handles conducts trace phase (.leaving (.error thrown)) []

end Phase

namespace Station

/-- What one step of a poller can come to. -/
inductive Move (conducts : Conducts E) (trace : List (Session.Exchange (World E)))
    (station : Station) : Station → Prop
  | seek {fallback : Phase} {found : Option TestUnit} {pool : WorkPool}
      {lifecycle : Lifecycle PollerState} {network : Network} {entry : Nat}
      (hphase : station.poller.phase.Seeks fallback)
      (hwithdraws : station.floor.pool.Withdraws found pool)
      (hvain : found = none →
        station.poller.phase.Vain station.poller.resources.device.serial pool)
      (huneventful : Session.Uneventful trace) :
      Move conducts trace station
        { poller := { station.poller with
            lifecycle, network, entry
            withdrawn := station.poller.withdrawn ++ found.toList
            phase := found.elim fallback .dispatching }
          floor := { station.floor with pool } }
  | handle {next : Phase} {dropped : List TestUnit} {lifecycle : Lifecycle PollerState}
      {network : Network} {entry : Nat}
      (hhandles : station.poller.phase.Handles conducts trace next dropped) :
      Move conducts trace station
        { station with
          poller := { station.poller with
            lifecycle, network, entry
            phase := next
            dropped := station.poller.dropped ++ dropped
            executed := station.poller.executed ++ station.poller.phase.started } }
  | signOut {exit : Exit} (hphase : station.poller.phase = .leaving exit)
      (huneventful : Session.Uneventful trace) :
      Move conducts trace station
        { poller := { station.poller with
            phase := if station.floor.countDown.1 then .reporting exit else .left exit
            reportedNotExecuted :=
              station.poller.reportedNotExecuted || station.floor.countDown.1 }
          floor := station.floor.countDown.2 }
  | report {exit : Exit} {drained : List TestUnit} {network : Network} {pool : WorkPool}
      (hphase : station.poller.phase = .reporting exit)
      (hdrained : station.floor.pool.Serves drained pool)
      (hreported : Reported conducts drained trace)
      (hemptied : Session.Calm trace →
        (∀ unit ∈ station.floor.pool.units, (conducts unit).Tame) → pool.units = []) :
      Move conducts trace station
        ((station.afterDrain drained network pool).updatePoller ({ · with phase := .left exit }))
  | rest {exit : Exit} (hphase : station.poller.phase = .left exit)
      (huneventful : Session.Uneventful trace) :
      Move conducts trace station station

/-- The phase a poller comes to: whatever is thrown makes it leave. -/
def nextPhase : Except Thrown Phase → Phase
  | .ok phase => phase
  | .error thrown => .leaving (.error thrown)

section Acts

variable {conducts : Conducts E} {first mid last : Station} {unit : TestUnit}
  {trace : List (Session.Exchange (World E))} {result : Except Thrown Phase}

/-- The station with units noted in the books of the poller. -/
def book (dropped executed : List TestUnit) (station : Station) : Station :=
  { station with poller := { station.poller with
      dropped := station.poller.dropped ++ dropped
      executed := station.poller.executed ++ executed } }

@[simp] theorem book_nil (station : Station) : station.book [] [] = station := by
  simp [book]

private theorem Backstage.book (h : first.Backstage mid) (dropped executed : List TestUnit) :
    (first.book dropped executed).Backstage (mid.book dropped executed) := by
  obtain ⟨lifecycle, network, entry, rfl⟩ := h
  exact ⟨lifecycle, network, entry, rfl⟩

/-- The act of a phase leads on as it should, and its units are noted in the books. -/
def HandlesTo (conducts : Conducts E) (phase : Phase) (first : Station)
    (trace : List (Session.Exchange (World E))) (result : Except Thrown Phase)
    (last : Station) : Prop :=
  ∃ dropped, phase.Handles conducts trace (nextPhase result) dropped ∧
    (first.book dropped phase.started).Backstage last

/-- To wire the collectors is routine. -/
theorem routine_wireCollectors : Flow.Routine (E := E) wireCollectors := by
  refine .bind .get fun _ => .bind (.forM fun _ => ?_) fun _ => .pure _
  exact .bind .get fun _ => .bind (Flow.Routine.within Network.routine_wrap)
    fun _ => .modify fun _ => trivial

/-- To wire the collectors shows only backstage; the poller then seeks a unit, unless a collector
throws. -/
theorem backstage_wireCollectors (h : wireCollectors.Ends first trace result last) :
    first.Backstage last ∧ (result = .ok .seekingGated ∨ ∃ thrown, result = .error thrown) := by
  rw [wireCollectors, Flow.ends_get_bind] at h
  have hforM : Flow.Keeps (E := E) first.Backstage
      ((List.range first.poller.resources.collectors.length).forM fun position => do
        let node := Poller.collectorNode position
        onNetwork (Network.wrap node first.poller.resources.context (← get).poller.entry)
        modify (updatePoller ({ · with entry := node }))) :=
    .forM fun _ => .bind .get fun _ => .bind keeps_backstage_onNetwork fun _ =>
      .modify fun _ h => h.trans ⟨_, _, _, rfl⟩
  rcases Flow.ends_bind.mp h with ⟨thrown, hthrown, rfl⟩ | ⟨_, _, _, mid, -, hwrapped, hrest⟩
  · exact ⟨(hforM hthrown).moved first.backstage_refl, .inr ⟨thrown, rfl⟩⟩
  · obtain ⟨-, rfl, rfl⟩ := Flow.ends_pure.mp hrest
    exact ⟨(hforM hwrapped).moved first.backstage_refl, .inl rfl⟩

private theorem handlesTo_wireCollectors (h : wireCollectors.Ends first trace result last) :
    HandlesTo conducts .wiringCollectors first trace result last := by
  have huneventful := routine_wireCollectors.uneventful h
  obtain ⟨hbackstage, rfl | ⟨thrown, rfl⟩⟩ := backstage_wireCollectors h
  · exact ⟨[], .wired huneventful, by simpa [Phase.started]⟩
  · refine ⟨[], .crashed (.inl rfl) fun _ hcalm => ?_, by simpa [Phase.started]⟩
    obtain ⟨phase, hnot⟩ := (routine_wireCollectors h).returned hcalm
    cases hnot

/-- To hand a unit its dependencies is routine. -/
theorem routine_provideAll {dependencies : List Dependency} :
    Flow.Routine (E := E) (S := Station) (dependencies.forM fun dependency => do
      Flow.resume (← Flow.request (.provide unit dependency))) :=
  .forM fun _ => Flow.Routine.provide

/-- A unit that is handed its dependencies takes them all, or throws at one of them. -/
theorem ends_provideAll {dependencies : List Dependency} {ended : Except Thrown PUnit}
    (h : Flow.Ends (E := E) (dependencies.forM fun dependency => do
      Flow.resume (← Flow.request (.provide unit dependency))) first trace ended last) :
    last = first ∧ (ended = .ok ⟨⟩ ∨ ∃ dependency thrown,
      ⟨.inl (.provide unit dependency), .error thrown⟩ ∈ trace ∧ ended = .error thrown) := by
  induction dependencies generalizing first trace with
  | nil =>
    obtain ⟨-, rfl, rfl⟩ := Flow.ends_pure.mp h
    exact ⟨rfl, .inl rfl⟩
  | cons dependency rest ih =>
    rw [List.forM] at h
    rcases Flow.ends_bind.mp h with
      ⟨thrown, hthrown, rfl⟩ | ⟨_, before, after, mid, rfl, htaken, hrest⟩
    · obtain ⟨answer, _, rfl, hresumed⟩ := Flow.ends_request_bind.mp hthrown
      obtain ⟨-, rfl, rfl⟩ := Flow.ends_resume.mp hresumed
      exact ⟨rfl, .inr ⟨dependency, thrown, List.mem_cons_self, rfl⟩⟩
    · obtain ⟨answer, _, rfl, hresumed⟩ := Flow.ends_request_bind.mp htaken
      obtain ⟨-, -, rfl⟩ := Flow.ends_resume.mp hresumed
      obtain ⟨rfl, hended⟩ := ih hrest
      refine ⟨rfl, hended.imp_right ?_⟩
      rintro ⟨other, thrown, hmem, hended⟩
      exact ⟨other, thrown, List.mem_append_right _ hmem, hended⟩

/-- To go on is to seek a gated unit. -/
theorem settles_proceed : Settles (E := E) proceed .seekingGated :=
  aside_transition.settles (settles_pure _)

/-- To terminate is to leave with the error. -/
theorem settles_terminate {error : TaskError} :
    Settles (E := E) (terminate error) (.leaving (.ok (.error error))) :=
  aside_transition.settles (settles_pure _)

/-- The unit throws out its poller when it is handed one of its dependencies. -/
def Unequipped (unit : TestUnit) (trace : List (Session.Exchange (World E))) (next : Phase) :
    Prop :=
  ∃ dependency thrown, ⟨.inl (.provide unit dependency), .error thrown⟩ ∈ trace ∧
    next = .leaving (.error thrown)

/-- A unit that takes its dependencies goes on as the validation of its options says. -/
theorem ends_dispatch (h : (dispatch conducts unit).Ends first trace result last) :
    (first.book (Phase.dropped (.dispatching unit) (nextPhase result)) []).Backstage last ∧
      (Unequipped unit trace (nextPhase result) ∨
        Session.Uneventful trace ∧ nextPhase result =
          .afterValidation unit ((conducts unit).validate "validation" unit.name)) := by
  obtain ⟨before, after, mid, rfl, hbefore, hmid, h⟩ := aside_transition.ends_bind h
  rw [Flow.ends_get_bind] at h
  rcases Flow.ends_bind.mp h with
    ⟨thrown, hthrown, rfl⟩ | ⟨_, provided, rest, later, rfl, hprovided, hvalidating⟩
  · obtain ⟨rfl, hended | ⟨dependency, thrown, hmem, hended⟩⟩ := ends_provideAll hthrown
    · cases hended
    · cases hended
      exact ⟨by simpa [Phase.dropped, nextPhase] using hmid,
        .inl ⟨dependency, thrown, List.mem_append_right _ hmem, rfl⟩⟩
  obtain ⟨rfl, -⟩ := ends_provideAll hprovided
  have huneventful := hbefore.append (routine_provideAll.uneventful hprovided)
  rw [← List.append_assoc]
  rcases Flow.ends_bind.mp hvalidating with
    ⟨thrown, hthrown, rfl⟩ | ⟨outcome, _, rest, _, rfl, hvalidated, hrest⟩
  · obtain ⟨rfl, hvalidate, rfl⟩ := Flow.ends_resume.mp hthrown
    rw [← hvalidate, List.append_nil]
    exact ⟨by simpa [Phase.dropped, nextPhase] using hmid, .inr ⟨huneventful, rfl⟩⟩
  obtain ⟨rfl, hvalidate, rfl⟩ := Flow.ends_resume.mp hvalidated
  rw [← hvalidate, List.nil_append]
  rcases outcome with error | ⟨⟨⟩⟩
  · rw [Flow.ends_modify_bind] at hrest
    obtain ⟨rfl, hlast, hafter⟩ := (aside_log (by decide)).settles settles_proceed hrest
    refine ⟨Backstage.trans ?_ hlast, .inr ⟨huneventful.append hafter, rfl⟩⟩
    simpa [book, updatePoller, Phase.dropped, nextPhase] using hmid.book [unit] []
  · have hexecuting : Settles (E := E) (do transition .executing; return Phase.executing unit)
        (.executing unit) :=
      aside_transition.settles (settles_pure _)
    obtain ⟨rfl, hlast, hafter⟩ := hexecuting hrest
    exact ⟨by simpa [Phase.dropped, nextPhase] using hmid.trans hlast,
      .inr ⟨huneventful.append hafter, rfl⟩⟩

private theorem handlesTo_dispatch (h : (dispatch conducts unit).Ends first trace result last) :
    HandlesTo conducts (.dispatching unit) first trace result last := by
  obtain ⟨hbackstage, hcourse⟩ := ends_dispatch h
  refine ⟨_, ?_, hbackstage⟩
  rcases hcourse with ⟨dependency, thrown, hmem, hnext⟩ | ⟨huneventful, hnext⟩
  · rw [hnext]
    refine .crashed (.inr (.inl ⟨unit, rfl⟩)) fun _ hcalm => ?_
    have hreturned : Except.error thrown = .ok () := hcalm _ hmem
    cases hreturned
  · rw [hnext]
    cases hvalidate : (conducts unit).validate "validation" unit.name with
    | error thrown =>
      refine .crashed (.inr (.inl ⟨unit, rfl⟩)) fun htame _ => ?_
      obtain ⟨outcome, hnot⟩ := (htame unit List.mem_cons_self).validate "validation" unit.name
      rw [hvalidate] at hnot
      cases hnot
    | ok outcome =>
      rcases outcome with error | ⟨⟨⟩⟩
      · exact .dropped ⟨error, hvalidate⟩ huneventful
      · exact .validated huneventful

/-- After the run of a unit only asides follow, and the outcome decides how the poller goes on. -/
theorem ends_execute (h : (execute conducts unit).Ends first trace result last) :
    (first.book [] [unit]).Backstage last ∧
      ∃ ran run after network, trace = run ++ after ∧
        (Session.Uneventful after ∧ Session.wirings after = []) ∧
        (Poller.execute (conducts unit) first.poller.resources first.poller.entry unit).Ends
          first.poller.network run ran network ∧
        nextPhase result = .afterRun first.poller.resources.recovery.isSome unit ran := by
  rw [execute, Flow.ends_modify_bind, Flow.ends_get_bind] at h
  have hbooked : first.updatePoller
      (fun poller => { poller with executed := poller.executed ++ [unit] }) =
      first.book [] [unit] := by
    simp [book, updatePoller]
  rw [hbooked] at h
  rcases Flow.ends_bind.mp h with
    ⟨thrown, hthrown, rfl⟩ | ⟨outcome, run, after, mid, rfl, hexecuted, hrest⟩
  · obtain ⟨network, hexecute, -⟩ := Flow.ends_within.mp hthrown
    exact ⟨backstage_onNetwork hthrown, .error thrown, trace, [], network,
      (List.append_nil trace).symm, ⟨Session.uneventful_nil, rfl⟩, hexecute, rfl⟩
  obtain ⟨network, hexecute, -⟩ := Flow.ends_within.mp hexecuted
  have hmid := backstage_onNetwork hexecuted
  have hnoted : ∀ {level event message}, Flow.Asks World.Ordinary (do
      log (E := E) level event message
      proceed) := by
    intro level event message
    exact .bind (asks_log fun _ _ => ⟨rfl, rfl⟩) fun _ => ordinary_proceed
  have hsettled : mid.Backstage last ∧ (Session.Uneventful after ∧ Session.wirings after = []) ∧
      nextPhase result = .afterRun first.poller.resources.recovery.isSome unit (.ok outcome) := by
    rcases outcome with error | ⟨⟨⟩⟩
    · dsimp only at hrest
      split at hrest
      · rename_i hunresponsive
        have hwirings := hnoted.unwiring.wirings hrest
        obtain ⟨rfl, hlast, hafter⟩ := (aside_log (by decide)).settles settles_proceed hrest
        have hkept : error.isDeviceLoss = false := by simp [TaskError.isDeviceLoss, hunresponsive]
        exact ⟨hlast, ⟨hafter, hwirings⟩, by simp [Phase.afterRun, hkept, nextPhase]⟩
      · rename_i hcategory
        have hlost : error.isDeviceLoss = true := by simp [TaskError.isDeviceLoss, hcategory]
        split at hrest
        · rename_i hrecovers
          obtain ⟨rfl, rfl, rfl⟩ := Flow.ends_pure.mp hrest
          have hpolicy : first.poller.resources.recovery.isSome = true := hrecovers
          exact ⟨backstage_refl _, ⟨Session.uneventful_nil, rfl⟩,
            by simp [Phase.afterRun, hlost, hpolicy, nextPhase]⟩
        · rename_i hrecovers
          have hwirings := ordinary_terminate.unwiring.wirings hrest
          obtain ⟨rfl, hlast, hafter⟩ := settles_terminate hrest
          have hpolicy : ¬first.poller.resources.recovery.isSome = true := hrecovers
          exact ⟨hlast, ⟨hafter, hwirings⟩,
            by rw [Phase.afterRun, if_pos hlost, if_neg hpolicy, nextPhase]⟩
      · rename_i hresponsive hcategory
        have hwirings := hnoted.unwiring.wirings hrest
        obtain ⟨rfl, hlast, hafter⟩ := (aside_log (by decide)).settles settles_proceed hrest
        have hkept : error.isDeviceLoss = false := decide_eq_false hcategory
        exact ⟨hlast, ⟨hafter, hwirings⟩, by simp [Phase.afterRun, hkept, nextPhase]⟩
    · have hwirings := ordinary_proceed.unwiring.wirings hrest
      obtain ⟨rfl, hlast, hafter⟩ := settles_proceed hrest
      exact ⟨hlast, ⟨hafter, hwirings⟩, rfl⟩
  obtain ⟨hlast, hafter, hnext⟩ := hsettled
  exact ⟨hmid.trans hlast, .ok outcome, run, after, network, rfl, hafter, hexecute, hnext⟩

private theorem handlesTo_execute (h : (execute conducts unit).Ends first trace result last) :
    HandlesTo conducts (.executing unit) first trace result last := by
  obtain ⟨hbackstage, ran, run, after, network, rfl, ⟨hafter, -⟩, hexecute, hnext⟩ :=
    ends_execute h
  refine ⟨[], ?_, hbackstage⟩
  rw [hnext]
  cases ran with
  | error thrown =>
    refine .crashed (.inr (.inr ⟨unit, rfl⟩)) fun htame hcalm => ?_
    obtain ⟨outcome, hnot⟩ := (Poller.ends_execute_of_calm hexecute
      (Session.calm_append.mp hcalm).1).2 (htame unit List.mem_cons_self)
    cases hnot
  | ok outcome =>
    refine .executed (fun hcalm => ?_) ?_
    · exact (Poller.ends_execute_of_calm hexecute (Session.calm_append.mp hcalm).1).1.append hafter
    · rcases outcome with error | ⟨⟨⟩⟩
      · rw [Phase.afterRun]
        split
        · split
          · exact .inr (.inl ⟨error, rfl⟩)
          · exact .inr (.inr ⟨error, rfl⟩)
        · exact .inl rfl
      · exact .inl rfl

/-- The device is recovered or given up, with the error that told of its loss. -/
theorem ends_recover {error : TaskError} (h : (recover unit error).Ends first trace result last) :
    Session.Uneventful trace ∧ first.Backstage last ∧
      (nextPhase result = .seekingGated ∨ nextPhase result = .leaving (.ok (.error error))) := by
  rw [recover, Flow.ends_get_bind] at h
  split at h
  · obtain ⟨rfl, hlast, hafter⟩ := settles_terminate h
    exact ⟨hafter, hlast, .inr rfl⟩
  · rename_i policy _
    rcases Flow.ends_bind.mp h with ⟨thrown, hthrown, -⟩ | ⟨outcome, _, _, _, rfl, hhandled, hrest⟩
    · obtain ⟨_, -, hnot, -⟩ := Flow.ends_work.mp hthrown
      cases hnot
    obtain ⟨_, hpath, hanswer, rfl⟩ := Flow.ends_work.mp hhandled
    obtain rfl := Except.ok.inj hanswer
    have hbefore := RecoveryPolicy.quiet_handleLoss.routine.uneventful hpath
    obtain ⟨-, back, -, -, rfl⟩ := RecoveryPolicy.treats_handleLoss hpath
    cases back with
    | true =>
      obtain ⟨rfl, hlast, hafter⟩ := settles_proceed hrest
      exact ⟨hbefore.append hafter, hlast, .inl rfl⟩
    | false =>
      obtain ⟨rfl, hlast, hafter⟩ := settles_terminate hrest
      exact ⟨hbefore.append hafter, hlast, .inr rfl⟩

private theorem handlesTo_recover {error : TaskError}
    (h : (recover unit error).Ends first trace result last) :
    HandlesTo conducts (.recovering unit error) first trace result last := by
  obtain ⟨huneventful, hlast, hnext⟩ := ends_recover h
  refine ⟨[], ?_, by simpa [Phase.started] using hlast⟩
  rcases hnext with hnext | hnext
  · rw [hnext]
    exact .recovered huneventful
  · rw [hnext]
    exact .lost huneventful

/-- The station after a look for a unit in the pool. -/
def afterSeek (found : Option TestUnit) (pool : WorkPool) (station : Station) : Station where
  poller := { station.poller with withdrawn := station.poller.withdrawn ++ found.toList }
  floor := { station.floor with pool }

private theorem ends_withdraw (h : (withdraw unit).Ends first trace result last) :
    trace = [] ∧ result = .ok (.dispatching unit) ∧
      last = first.afterSeek (some unit) first.floor.pool := by
  rw [withdraw, Flow.ends_modify_bind] at h
  exact Flow.ends_pure.mp h

/-- To look for a gated unit is to poll the pool for the device. -/
theorem path_of_seekGated (h : seekGated.Ends first trace result last) :
    ∃ found pool,
      (first.floor.pool.pollGated first.poller.resources.device).Path trace (found, pool) ∧
      result = .ok (found.elim .seekingGeneric .dispatching) ∧
      last = first.afterSeek found pool := by
  rw [seekGated, Flow.ends_get_bind] at h
  rcases Flow.ends_bind.mp h with
    ⟨thrown, hthrown, -⟩ | ⟨⟨found, pool⟩, _, _, _, rfl, hpolled, hrest⟩
  · obtain ⟨_, -, hnot, -⟩ := Flow.ends_work.mp hthrown
    cases hnot
  obtain ⟨_, hpath, hanswer, rfl⟩ := Flow.ends_work.mp hpolled
  obtain rfl := Except.ok.inj hanswer
  rw [Flow.ends_modify_bind] at hrest
  refine ⟨found, pool, ?_⟩
  cases found with
  | none =>
    obtain ⟨rfl, rfl, rfl⟩ := Flow.ends_pure.mp hrest
    rw [List.append_nil]
    exact ⟨hpath, rfl, by simp [afterSeek, putPool]⟩
  | some unit =>
    obtain ⟨rfl, rfl, rfl⟩ := ends_withdraw hrest
    rw [List.append_nil]
    exact ⟨hpath, rfl, rfl⟩

/-- To look for a gated unit takes one out of the pool, or leaves all gated units turned down for
the device. -/
theorem ends_seekGated (hformed : first.floor.pool.WellFormed)
    (h : seekGated.Ends first trace result last) :
    ∃ found pool, first.floor.pool.Withdraws found pool ∧
      (found = none → pool.TurnedDown first.poller.resources.device.serial) ∧
      Session.Uneventful trace ∧
      result = .ok (found.elim .seekingGeneric .dispatching) ∧
      last = first.afterSeek found pool := by
  obtain ⟨found, pool, hpath, rfl, rfl⟩ := path_of_seekGated h
  refine ⟨found, pool, hformed.withdraws_pollGated hpath, ?_,
    WorkPool.quiet_pollGated.routine.uneventful hpath, rfl, rfl⟩
  rintro rfl
  exact WorkPool.turnedDown_of_pollGated hpath

/-- To look for a generic unit is to take the first one. -/
theorem afterSeek_of_seekGeneric (h : seekGeneric.Ends first trace result last) :
    Session.Uneventful trace ∧
      result = .ok (first.floor.pool.pollGeneric.1.elim (.leaving (.ok (.ok ()))) .dispatching) ∧
      (first.afterSeek first.floor.pool.pollGeneric.1 first.floor.pool.pollGeneric.2).Backstage
        last := by
  rw [seekGeneric, Flow.ends_get_bind] at h
  generalize first.floor.pool.pollGeneric = polled at h ⊢
  obtain ⟨found, pool⟩ := polled
  rw [Flow.ends_modify_bind] at h
  cases found with
  | none =>
    obtain ⟨_, _, mid, rfl, hbefore, hmid, hrest⟩ := aside_transition.ends_bind h
    rw [Flow.ends_get_bind] at hrest
    have hleaving : Settles (E := E) (do
        log .info "pool_drained" ("No more units for this device, withdrew "
          ++ toString mid.poller.withdrawn.length)
        return Phase.leaving (.ok (.ok ()))) (.leaving (.ok (.ok ()))) :=
      (aside_log (by decide)).settles (settles_pure _)
    obtain ⟨rfl, hlast, hafter⟩ := hleaving hrest
    refine ⟨hbefore.append hafter, rfl, ?_⟩
    simpa [afterSeek, putPool] using hmid.trans hlast
  | some unit =>
    obtain ⟨rfl, rfl, rfl⟩ := ends_withdraw h
    exact ⟨Session.uneventful_nil, rfl, backstage_refl _⟩

/-- To look for a generic unit takes one out of the pool; if there is none, the poller leaves. -/
theorem ends_seekGeneric (hformed : first.floor.pool.WellFormed)
    (h : seekGeneric.Ends first trace result last) :
    ∃ found pool, first.floor.pool.Withdraws found pool ∧ (found = none → pool.generic = []) ∧
      Session.Uneventful trace ∧
      result = .ok (found.elim (.leaving (.ok (.ok ()))) .dispatching) ∧
      (first.afterSeek found pool).Backstage last :=
  ⟨_, _, hformed.withdraws_pollGeneric, WorkPool.generic_of_pollGeneric_eq_none,
    afterSeek_of_seekGeneric h⟩

/-- To sign out counts the poller down; the last one goes on to the final report. -/
theorem ends_signOut {exit : Exit} (h : (signOut exit).Ends first trace result last) :
    trace = [] ∧
      result = .ok (if first.floor.countDown.1 then .reporting exit else .left exit) ∧
      last = {
        poller := { first.poller with
          reportedNotExecuted := first.poller.reportedNotExecuted || first.floor.countDown.1 }
        floor := first.floor.countDown.2 } := by
  rw [signOut, Flow.ends_get_bind] at h
  generalize first.floor.countDown = counted at h
  obtain ⟨zero, floor⟩ := counted
  rw [Flow.ends_modify_bind] at h
  cases zero with
  | true =>
    rw [if_pos rfl, Flow.ends_modify_bind] at h
    obtain ⟨rfl, rfl, rfl⟩ := Flow.ends_pure.mp h
    simp [updatePoller]
  | false =>
    obtain ⟨rfl, rfl, rfl⟩ := Flow.ends_pure.mp h
    simp

end Acts

variable {conducts : Conducts E} {station last : Station}
  {trace : List (Session.Exchange (World E))}

/-- Every move leaves the pool well-formed. -/
theorem Move.formed (h : station.Move conducts trace last)
    (hformed : station.floor.pool.WellFormed) : last.floor.pool.WellFormed := by
  cases h with
  | seek hphase hwithdraws hvain huneventful => exact hwithdraws.wellFormed
  | report hphase hdrained hreported hemptied => exact hdrained.wellFormed
  | _ => exact hformed

/-- Only a look into the pool withdraws a unit. -/
theorem Move.withdrawn_eq (h : station.Move conducts trace last)
    (hphase : ∀ fallback, ¬station.poller.phase.Seeks fallback) :
    last.poller.withdrawn = station.poller.withdrawn := by
  cases h with
  | seek hseeks => exact absurd hseeks (hphase _)
  | _ => rfl

/-- The pool changes only when it is looked into and when it is reported. -/
theorem Move.pool_eq (h : station.Move conducts trace last)
    (hphase : ∀ fallback, ¬station.poller.phase.Seeks fallback)
    (hreporting : ∀ exit, station.poller.phase ≠ .reporting exit) :
    last.floor.pool = station.floor.pool := by
  cases h with
  | seek hseeks => exact absurd hseeks (hphase _)
  | report hreports => exact absurd hreports (hreporting _)
  | _ => rfl

/-- A step does what the phase says; what is thrown decides the next phase like anything else. -/
theorem ends_of_step (h : (station.step conducts).Path trace last) :
    ∃ result mid, (Station.act conducts station.poller.phase).Ends station trace result mid ∧
      last = mid.updatePoller ({ · with phase := nextPhase result }) := by
  obtain ⟨⟨result, mid⟩, act, _, rfl, hact, hdone⟩ := Session.path_seq.mp h
  obtain ⟨rfl, hlast⟩ := Session.path_pure.mp hdone
  rw [List.append_nil]
  refine ⟨result, mid, hact, ?_⟩
  cases result <;> exact hlast

/-- The act of a phase leads to the next one. -/
theorem phase_of_step (h : (station.step conducts).Path trace last) :
    ∃ result mid, (act conducts station.poller.phase).Ends station trace result mid ∧
      last.poller.phase = nextPhase result := by
  obtain ⟨result, mid, hact, rfl⟩ := ends_of_step h
  exact ⟨result, mid, hact, rfl⟩

/-- A poller that has left does nothing. -/
theorem path_step_of_left {exit : Exit} (hleft : station.poller.phase = .left exit) :
    (station.step conducts).Path trace last ↔ trace = [] ∧ last = station := by
  have hstep : station.step conducts =
      pure (station.updatePoller ({ · with phase := .left exit })) := by
    rw [step, hleft]
    rfl
  rw [hstep, Session.path_pure, updatePoller, ← hleft]

/-- Every step is one of the moves. -/
theorem move_of_step (hformed : station.floor.pool.WellFormed)
    (h : (station.step conducts).Path trace last) : Move conducts trace station last := by
  obtain ⟨result, mid, hact, hlast⟩ := ends_of_step h
  have hhandle : HandlesTo conducts station.poller.phase station trace result mid →
      Move conducts trace station last := by
    rintro ⟨dropped, hhandles, lifecycle, network, entry, rfl⟩
    exact hlast ▸ .handle hhandles
  cases hphase : station.poller.phase with
  | wiringCollectors =>
    rw [hphase] at hact hhandle
    exact hhandle (handlesTo_wireCollectors hact)
  | seekingGated =>
    rw [hphase] at hact
    obtain ⟨found, pool, hwithdraws, hvain, huneventful, rfl, rfl⟩ := ends_seekGated hformed hact
    exact hlast ▸ .seek (hphase ▸ .gated) hwithdraws (hphase ▸ hvain) huneventful
  | seekingGeneric =>
    rw [hphase] at hact
    obtain ⟨found, pool, hwithdraws, hvain, huneventful, rfl, _, _, _, rfl⟩ :=
      ends_seekGeneric hformed hact
    exact hlast ▸ .seek (hphase ▸ .generic) hwithdraws (hphase ▸ hvain) huneventful
  | dispatching unit =>
    rw [hphase] at hact hhandle
    exact hhandle (handlesTo_dispatch hact)
  | executing unit =>
    rw [hphase] at hact hhandle
    exact hhandle (handlesTo_execute hact)
  | recovering unit error =>
    rw [hphase] at hact hhandle
    exact hhandle (handlesTo_recover hact)
  | leaving exit =>
    rw [hphase] at hact
    obtain ⟨rfl, rfl, rfl⟩ := ends_signOut hact
    exact hlast ▸ .signOut hphase Session.uneventful_nil
  | reporting exit =>
    rw [hphase] at hact
    rcases Flow.ends_bind.mp hact with
      ⟨thrown, hthrown, -⟩ | ⟨⟨⟩, _, _, _, rfl, hreported, hrest⟩
    · cases (ends_finalReport hformed hthrown).1
    obtain ⟨-, drained, network, pool, rfl, hdrained, htold, hemptied⟩ :=
      ends_finalReport hformed hreported
    obtain ⟨rfl, rfl, rfl⟩ := Flow.ends_pure.mp hrest
    rw [List.append_nil]
    exact hlast ▸ .report hphase hdrained htold hemptied
  | left exit =>
    rw [hphase] at hact
    obtain ⟨rfl, rfl, rfl⟩ := Flow.ends_pure.mp hact
    obtain rfl : last = mid := by rw [hlast, updatePoller, nextPhase, ← hphase]
    exact .rest hphase Session.uneventful_nil

end Station

end Fleet
