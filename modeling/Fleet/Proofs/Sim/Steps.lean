import Fleet.Proofs.Crew.Books
import Fleet.Proofs.Poller.Unwired
import Fleet.Proofs.Sim.Conducts

/-!
# What the steps of a poller amount to

If all is granted, each step of a poller without collectors tells of as many runs as it notes units
as executed or asked to report. Those asked to report failed, and of the executed ones those during
which a device dropped.
-/

namespace Fleet

namespace Sim

variable {home : Option Module} {unit keeper : TestUnit} {conduct : Conduct Backstage}
  {conducts : Conducts Backstage} {poller : Poller} {module : Module}
  {trace before after : List (Session.Exchange (World Backstage))}

/-- A unit that is executed while all is granted comes to an outcome. It runs once. -/
theorem RunsOnce.of_execute {network : Network} {result : Except Thrown Outcome}
    (hruns : RunsOnce home unit conduct) (h : poller.Unwired)
    (hexecute : (Poller.execute conduct poller.resources poller.entry unit).Ends poller.network
      trace result network) (hcalm : Session.Calm trace)
    (hgranted : Session.Granted (Session.dealings trace))
    (hfinds : ∀ module ∈ home, FindsFirst module (Session.dealings trace)) :
    network[Poller.ownListener]? = some (.outlet 0) ∧ (∃ outcome, result = .ok outcome) ∧
      AmountsTo (Session.sent trace) 1 (drops (Session.dealings trace)) ∧
      (∀ exchange ∈ Session.dealings trace, Unsent exchange) ∧
      (home = none → ∀ exchange ∈ Session.dealings trace, isKeep exchange = false) := by
  obtain ⟨hlistener, played, ended, hpath, hheard, hresult, hdealings, hsent⟩ :=
    h.heard_of_execute hruns.plain hexecute hcalm
  rw [hdealings] at hgranted hfinds ⊢
  obtain ⟨⟨outcome, rfl⟩, hamounts, hunsent, hkept⟩ := hruns.run hpath hheard hgranted hfinds
  obtain rfl : result = .ok outcome := hresult
  exact ⟨hlistener, ⟨outcome, rfl⟩, hamounts.of_bare hsent, hunsent, hkept⟩

/-- The units that report that they did not run tell of one failed run each. -/
theorem drained_runs {first last : Station} {ended : Except Thrown Unit} {done : WorkPool → Prop}
    (h : Station.Drains conducts done first trace ended last) (hunwired : first.poller.Unwired)
    (hruns : ∀ unit ∈ first.floor.pool.units, ∃ home, RunsOnce home unit (conducts unit))
    (hcalm : Session.Calm trace) :
    ended = .ok () ∧ last.poller.Unwired ∧ Session.dealings trace = [] ∧
      ∃ reports, last.poller.asked.length = first.poller.asked.length + reports ∧
        AmountsTo (Session.sent trace) reports reports := by
  induction h with
  | finished => exact ⟨rfl, hunwired, rfl, 0, rfl, amountsTo_nil⟩
  | @stopped first last unit message rest _ _ hwithdraws hreport =>
    obtain ⟨home, honce⟩ := hruns unit (hwithdraws.mem_of_mem_returned List.mem_cons_self)
    obtain ⟨events, hevents, -⟩ := honce.report message
    have hput : (first.putPool rest).poller.Unwired := hunwired
    cases (Station.heard_of_reportUnit hput honce.capability hevents hreport hcalm).1
  | @goesOn first mid last unit message rest before after _ hwithdraws hreport _ ih =>
    obtain ⟨home, honce⟩ := hruns unit (hwithdraws.mem_of_mem_returned List.mem_cons_self)
    obtain ⟨events, hevents, hfailed⟩ := honce.report message
    obtain ⟨hbefore, hafter⟩ := Session.calm_append.mp hcalm
    have hput : (first.putPool rest).poller.Unwired := hunwired
    obtain ⟨-, hmid, hasked, hquiet, hsent⟩ :=
      Station.heard_of_reportUnit hput honce.capability hevents hreport hbefore
    have hpool : mid.floor.pool = rest := by rw [Station.floor_of_reportUnit hreport]; rfl
    obtain ⟨hended, hlast, hsilent, reports, hcount, hreports⟩ := ih hmid (fun unit hunit =>
      hruns unit (hwithdraws.units.mem_iff.mpr (List.mem_append_right _ (hpool ▸ hunit)))) hafter
    refine ⟨hended, hlast, by rw [Session.dealings_append, hquiet, hsilent, List.append_nil],
      1 + reports, ?_, ?_⟩
    · rw [hcount, hasked, List.length_append, List.length_singleton, Nat.add_assoc]
      rfl
    · rw [Session.sent_append]
      exact (hfailed.of_bare hsent).append hreports

/-- What a step of a poller tells is what it notes in its books, and a module is kept only by a
keeper that has been executed. -/
structure Recounts (keeper : TestUnit) (first : Station)
    (trace : List (Session.Exchange (World Backstage))) (last : Station) : Prop where
  unwired : last.poller.Unwired
  sound : first.Sound last
  dropped : last.poller.dropped = first.poller.dropped
  counts : ∃ runs reports,
    last.poller.executed.length = first.poller.executed.length + runs ∧
    last.poller.asked.length = first.poller.asked.length + reports ∧
    AmountsTo (Session.sent trace) (runs + reports)
      (reports + drops (Session.dealings trace))
  unsent : ∀ exchange ∈ Session.dealings trace, Unsent exchange
  kept : ∀ exchange ∈ Session.dealings trace, isKeep exchange = true →
    keeper ∈ last.poller.executed

/-- Only the keeper among the units deals in the module. -/
def homeOf (keeper : TestUnit) (module : Module) (unit : TestUnit) : Option Module :=
  if unit = keeper then some module else none

section Steps

variable {first last : Station}

/-- Units are asked to report in the final report only. -/
theorem asked_eq (hmove : first.Move conducts trace last) (hcalm : Session.Calm trace)
    (hsound : first.Sound last) (hphase : ∀ exit, first.poller.phase ≠ .reporting exit) :
    last.poller.asked = first.poller.asked := by
  obtain ⟨withdrawn, executed, dropped, drained, hbooks⟩ := hmove.books hcalm hsound
  have hnone : drained = [] :=
    hbooks.reporting.resolve_right fun ⟨exit, hreporting⟩ => hphase exit hreporting
  rw [hbooks.asked, hnone]
  exact List.append_nil _

/-- A step in which nothing shows to a listener. -/
theorem Recounts.of_quiet (hmove : first.Move conducts trace last) (hcalm : Session.Calm trace)
    (hquiet : Session.deeds trace = []) (hunwired : last.poller.Unwired)
    (hcontained : ∀ thrown, last.poller.phase ≠ .leaving (.error thrown))
    (hphase : ∀ exit, first.poller.phase ≠ .reporting exit)
    (hstarted : first.poller.phase.started = [])
    (hdropped : first.poller.phase.dropped last.poller.phase = []) :
    Recounts keeper first trace last := by
  have hsound : first.Sound last := ⟨hcontained, fun exit h => absurd h (hphase exit)⟩
  have hdealings := Session.dealings_of_deeds_nil hquiet
  refine ⟨hunwired, hsound, ?_, ⟨0, 0, ?_, ?_, ?_⟩, ?_, ?_⟩
  · rw [hmove.dropped_eq, hdropped, List.append_nil]
  · rw [hmove.executed_eq, hstarted]
    exact congrArg _ (List.append_nil _)
  · exact congrArg _ (asked_eq hmove hcalm hsound hphase)
  · rw [hdealings, Session.sent_of_deeds_nil hquiet]
    exact amountsTo_nil
  · rw [hdealings]
    exact List.forall_mem_nil _
  · rw [hdealings]
    exact List.forall_mem_nil _

/-- What a poller does without a unit in hand is contained if nothing is thrown at it. -/
theorem Recounts.of_discreet {result : Except Thrown Phase} {mid : Station}
    (hmove : first.Move conducts trace
      (mid.updatePoller ({ · with phase := Station.nextPhase result })))
    (hcalm : Session.Calm trace) (hdiscreet : Session.deeds trace = [] ∧ first.SameListeners mid)
    (hunwired : first.poller.Unwired) (hinHand : first.poller.phase.inHand = [])
    (hphase : ∀ exit, first.poller.phase ≠ .reporting exit)
    (hstarted : first.poller.phase.started = []) :
    Recounts keeper first trace
      (mid.updatePoller ({ · with phase := Station.nextPhase result })) := by
  have hlast := hdiscreet.2.unwired hunwired
  refine .of_quiet hmove hcalm hdiscreet.1 ⟨hlast.listener, hlast.entry, hlast.collectors⟩
    (hmove.contained hcalm fun unit hunit => ?_) hphase hstarted ?_
  · rw [hinHand] at hunit
    cases hunit
  · unfold Phase.dropped
    split
    · rename_i hdispatching _
      rw [hdispatching] at hinHand
      cases hinHand
    · rfl

/-- A poller does not leave with something thrown after such an execution. -/
theorem contained_of_execute {result : Except Thrown Phase} {mid : Station}
    (hunwired : first.poller.Unwired) (hruns : RunsOnce home unit (conducts unit))
    (hact : (Station.execute conducts unit).Ends first trace result mid)
    (hcalm : Session.Calm trace) (hgranted : Session.Granted (Session.dealings trace))
    (hfinds : ∀ module ∈ home, FindsFirst module (Session.dealings trace)) (thrown : Thrown) :
    Station.nextPhase result ≠ .leaving (.error thrown) := by
  obtain ⟨-, ran, run, after, network, rfl, ⟨hafter, -⟩, hexecute, hnext⟩ :=
    Station.ends_execute hact
  have hrun : Session.dealings (run ++ after) = Session.dealings run := by
    rw [Session.dealings_append, Session.dealings_of_errands_nil hafter.errands, List.append_nil]
  rw [hrun] at hgranted hfinds
  obtain ⟨-, ⟨outcome, rfl⟩, -⟩ :=
    hruns.of_execute hunwired hexecute (Session.calm_append.mp hcalm).1 hgranted hfinds
  rw [hnext]
  unfold Phase.afterRun
  split
  · nofun
  · split
    · split <;> nofun
    · nofun
  · rename_i hthrown
    cases hthrown

/-- The execution of a unit recounts one run. -/
theorem recounts_of_execute {result : Except Thrown Phase} {mid : Station}
    (hmove : first.Move conducts trace
      (mid.updatePoller ({ · with phase := Station.nextPhase result })))
    (hphase : first.poller.phase = .executing unit) (hunwired : first.poller.Unwired)
    (hruns : RunsOnce (homeOf keeper module unit) unit (conducts unit))
    (hact : (Station.execute conducts unit).Ends first trace result mid)
    (hcalm : Session.Calm trace) (hgranted : Session.Granted (Session.dealings trace))
    (hfinds : first.poller.phase = .executing keeper →
      FindsFirst module (Session.dealings trace)) :
    Recounts keeper first trace
      (mid.updatePoller ({ · with phase := Station.nextPhase result })) := by
  have hhome : ∀ home ∈ homeOf keeper module unit, FindsFirst home (Session.dealings trace) := by
    intro home hhome
    rw [homeOf] at hhome
    split at hhome
    · rename_i hkeeper
      obtain rfl := Option.some.inj hhome
      exact hfinds (hkeeper ▸ hphase)
    · cases hhome
  have hcontained := contained_of_execute hunwired hruns hact hcalm hgranted hhome
  obtain ⟨run, rest, ran, network, rfl, hquiet, hexecute, hnetwork, hentry, hresources, -⟩ :=
    Station.ends_execute_discreet hact
  have hrun : Session.dealings (run ++ rest) = Session.dealings run := by
    rw [Session.dealings_append, Session.dealings_of_deeds_nil hquiet, List.append_nil]
  have hsent : Session.sent (run ++ rest) = Session.sent run := by
    rw [Session.sent_append, Session.sent_of_deeds_nil hquiet, List.append_nil]
  rw [hrun] at hgranted hhome
  obtain ⟨hlistener, -, hamounts, hunsent, hkept⟩ :=
    hruns.of_execute hunwired hexecute (Session.calm_append.mp hcalm).1 hgranted hhome
  have hnever : ∀ exit, first.poller.phase ≠ .reporting exit :=
    fun exit h => by rw [hphase] at h; cases h
  have hsound : first.Sound (mid.updatePoller ({ · with phase := Station.nextPhase result })) :=
    ⟨hcontained, fun exit h => absurd h (hnever exit)⟩
  have hexecuted := hmove.executed_eq
  rw [hphase] at hexecuted
  refine ⟨⟨?_, ?_, ?_⟩, hsound, ?_, ⟨1, 0, ?_, ?_, ?_⟩, ?_, ?_⟩
  · exact (congrArg (·[Poller.ownListener]?) hnetwork).trans hlistener
  · exact hentry.trans hunwired.entry
  · exact (congrArg Resources.collectors hresources).trans hunwired.collectors
  · rw [hmove.dropped_eq, hphase]
    exact List.append_nil _
  · rw [hexecuted]
    exact List.length_append
  · exact congrArg _ (asked_eq hmove hcalm hsound hnever)
  · rw [hrun, hsent, Nat.zero_add]
    exact hamounts
  · rw [hrun]
    exact hunsent
  · rw [hrun, hexecuted]
    intro exchange hexchange hkeep
    by_cases hkeeper : unit = keeper
    · rw [hkeeper]
      exact List.mem_append_right _ List.mem_cons_self
    · rw [hkept (if_neg hkeeper) exchange hexchange] at hkeep
      cases hkeep

/-- The final report recounts one failed run for each unit asked. -/
theorem recounts_of_report {exit : Exit} {result : Except Thrown Phase} {mid : Station}
    (hmove : first.Move conducts trace
      (mid.updatePoller ({ · with phase := Station.nextPhase result })))
    (hphase : first.poller.phase = .reporting exit) (hunwired : first.poller.Unwired)
    (hformed : first.floor.pool.WellFormed)
    (hruns : ∀ unit ∈ first.floor.pool.units, ∃ home, RunsOnce home unit (conducts unit))
    (hact : (Station.act conducts (.reporting exit)).Ends first trace result mid)
    (hcalm : Session.Calm trace) :
    Recounts keeper first trace
      (mid.updatePoller ({ · with phase := Station.nextPhase result })) := by
  have hcontained := hmove.contained hcalm fun unit hunit => by rw [hphase] at hunit; cases hunit
  rcases Flow.ends_bind.mp hact with
    ⟨thrown, hthrown, rfl⟩ | ⟨⟨⟩, report, _, _, rfl, hreport, hdone⟩
  · exact absurd rfl (hcontained thrown)
  obtain ⟨rfl, rfl, rfl⟩ := Flow.ends_pure.mp hdone
  rw [List.append_nil] at hmove hcalm hact ⊢
  obtain ⟨-, reported, logged, attempted, rfl, hdrains, hquiet, -⟩ :=
    Station.drains_finalReport hformed hreport
  obtain ⟨rfl, hlast, hsilent, reports, hasked, hamounts⟩ :=
    drained_runs hdrains hunwired hruns (Session.calm_append.mp hcalm).1
  obtain rfl := hquiet rfl
  have hempty : mid.floor.pool.units = [] := by
    obtain ⟨_, hreports⟩ := hdrains.reports hformed
    exact (hreports.finished rfl).2
  rw [List.append_nil] at hmove ⊢
  refine ⟨⟨hlast.listener, hlast.entry, hlast.collectors⟩, ⟨hcontained, fun _ _ => hempty⟩, ?_,
    ⟨0, reports, ?_, hasked, ?_⟩, ?_, ?_⟩
  · rw [hmove.dropped_eq, hphase]
    exact List.append_nil _
  · rw [hmove.executed_eq, hphase]
    exact congrArg _ (List.append_nil _)
  · rw [hsilent, Nat.zero_add]
    exact hamounts
  · rw [hsilent]
    exact List.forall_mem_nil _
  · rw [hsilent]
    exact List.forall_mem_nil _

/-- Every step recounts what it tells. -/
theorem recounts_of_step (hunwired : first.poller.Unwired) (hformed : first.floor.pool.WellFormed)
    (hruns : ∀ unit ∈ first.inReach, RunsOnce (homeOf keeper module unit) unit (conducts unit))
    (h : (first.step conducts).Path trace last) (hcalm : Session.Calm trace)
    (hgranted : Session.Granted (Session.dealings trace))
    (hfinds : first.poller.phase = .executing keeper →
      FindsFirst module (Session.dealings trace)) :
    Recounts keeper first trace last := by
  have hmove := Station.move_of_step hformed h
  have hcontains := Station.contains_of_step hformed h hcalm.heeded
  obtain ⟨result, mid, hact, rfl⟩ := Station.ends_of_step h
  cases hphase : first.poller.phase with
  | wiringCollectors =>
    rw [hphase] at hact
    have hnothing : trace = [] ∧ result = .ok .seekingGated ∧ mid = first := by
      rw [Station.act, Station.wireCollectors, Flow.ends_get_bind] at hact
      dsimp only at hact
      rw [hunwired.collectors] at hact
      exact Flow.ends_pure.mp hact
    obtain ⟨rfl, -, rfl⟩ := hnothing
    exact .of_discreet hmove hcalm ⟨rfl, .refl _⟩ hunwired
      (by rw [hphase]; rfl) (fun _ h => by rw [hphase] at h; cases h) (by rw [hphase]; rfl)
  | seekingGated =>
    rw [hphase] at hact
    exact .of_discreet hmove hcalm (Station.discreet_seekGated.unheard hact) hunwired
      (by rw [hphase]; rfl) (fun _ h => by rw [hphase] at h; cases h) (by rw [hphase]; rfl)
  | seekingGeneric =>
    rw [hphase] at hact
    exact .of_discreet hmove hcalm (Station.discreet_seekGeneric.unheard hact) hunwired
      (by rw [hphase]; rfl) (fun _ h => by rw [hphase] at h; cases h) (by rw [hphase]; rfl)
  | dispatching unit =>
    rw [hphase] at hact
    have hunit : unit ∈ first.inReach :=
      Station.mem_inReach_of_inHand (by rw [hphase]; exact List.mem_cons_self)
    have honce := hruns unit hunit
    have hvalid : (conducts unit).validate "validation" unit.name = .ok (.ok ()) := by
      rw [Conduct.validate, honce.options]
      rfl
    have hnext : Station.nextPhase result = .executing unit := by
      rcases hcontains.dispatched unit hphase with ⟨_, thrown, hthrown, -⟩ | hvalidated
      · cases hcalm _ hthrown
      · rw [hvalid] at hvalidated
        exact hvalidated
    obtain ⟨hquiet, hsame⟩ := Station.discreet_dispatch.unheard hact
    have hmid := hsame.unwired hunwired
    rw [hnext] at hmove ⊢
    exact .of_quiet hmove hcalm hquiet ⟨hmid.listener, hmid.entry, hmid.collectors⟩
      (fun _ h => by cases h) (fun _ h => by rw [hphase] at h; cases h) (by rw [hphase]; rfl)
      (by rw [hphase]; rfl)
  | executing unit =>
    rw [hphase] at hact
    have hunit : unit ∈ first.inReach :=
      Station.mem_inReach_of_inHand (by rw [hphase]; exact List.mem_cons_self)
    have honce := hruns unit hunit
    exact recounts_of_execute hmove hphase hunwired honce hact hcalm hgranted hfinds
  | recovering unit error =>
    rw [hphase] at hact
    exact .of_discreet hmove hcalm (Station.discreet_recover.unheard hact) hunwired
      (by rw [hphase]; rfl) (fun _ h => by rw [hphase] at h; cases h) (by rw [hphase]; rfl)
  | leaving exit =>
    rw [hphase] at hact
    exact .of_discreet hmove hcalm (Station.discreet_signOut.unheard hact) hunwired
      (by rw [hphase]; rfl) (fun _ h => by rw [hphase] at h; cases h) (by rw [hphase]; rfl)
  | reporting exit =>
    rw [hphase] at hact
    exact recounts_of_report hmove hphase hunwired hformed
      (fun unit hunit => ⟨_, hruns unit (Station.mem_inReach_of_pool hunit)⟩) hact hcalm
  | left exit =>
    rw [hphase] at hact
    obtain ⟨rfl, -, rfl⟩ := Flow.ends_pure.mp hact
    exact .of_discreet hmove hcalm ⟨rfl, .refl _⟩ hunwired
      (by rw [hphase]; rfl) (fun _ h => by rw [hphase] at h; cases h) (by rw [hphase]; rfl)

end Steps

end Sim

end Fleet
