import Fleet.Poller.Report
import Fleet.Proofs.InTurn
import Fleet.Proofs.Performance
import Fleet.Proofs.Poller.Backstage
import Fleet.Proofs.Pool.Conservation

/-!
# What the final report does

The final report takes units out of the pool one by one, asks those that can to report and complains
about the others. The first report that throws ends it: the units still in the pool stay there, and
nothing is thrown any further. If nothing throws, the report empties the pool.
-/

namespace Fleet

variable {E : Interface}

/-- What is logged about a unit that cannot report. -/
def TestUnit.complaint (unit : TestUnit) : String :=
  "Could not report not executed tests from " ++ unit.name ++ "."

/-- The units of a list that can report. -/
def reporters (units : List TestUnit) : List TestUnit :=
  units.filter (·.capabilities.notExecutedReport)

/-- The units of a list that cannot report. -/
def nonReporters (units : List TestUnit) : List TestUnit :=
  units.filter (!·.capabilities.notExecutedReport)

/-- In the conversation these units, in this order, are asked to report or complained about. -/
structure Reported (conducts : Conducts E) (units : List TestUnit)
    (trace : List (Session.Exchange (World E))) : Prop where
  asked : ∀ announced, (∀ unit ∈ units, (conducts unit).Announces announced unit) →
    (Session.errands trace).filterMap announced = (reporters units).map .report
  complaints : Session.complaints trace = (nonReporters units).map (·.complaint)

namespace Reported

variable {conducts : Conducts E} {units more : List TestUnit}
  {before after : List (Session.Exchange (World E))}

/-- Where no unit shows, no unit is reported. -/
theorem nil (h : Session.Uneventful before) : Reported conducts [] before where
  asked announced _ := by rw [h.errands]; rfl
  complaints := h.complaints

/-- Units are reported in one conversation after the other. -/
theorem append (hbefore : Reported conducts units before) (hafter : Reported conducts more after) :
    Reported conducts (units ++ more) (before ++ after) where
  asked announced h := by
    obtain ⟨hunits, hmore⟩ := List.forall_mem_append.mp h
    rw [Session.errands_append, List.filterMap_append, hbefore.asked announced hunits,
      hafter.asked announced hmore, reporters, reporters, reporters, List.filter_append,
      List.map_append]
  complaints := by
    rw [Session.complaints_append, hbefore.complaints, hafter.complaints, nonReporters,
      nonReporters, nonReporters, List.filter_append, List.map_append]

end Reported

/-- One unit's part in the final report: what is said in it, and how it ends. -/
structure UnitReport (E : Interface) where
  unit : TestUnit
  trace : List (Session.Exchange (World E))
  ended : Except Thrown Unit

namespace UnitReport

/-- What the report threw. -/
def thrown? (report : UnitReport E) : Option Thrown :=
  match report.ended with
  | .ok () => none
  | .error thrown => some thrown

/-- A unit that can report is asked once, and its report ends as it ends. A unit that cannot is
complained about once. -/
inductive Made (conducts : Conducts E) : UnitReport E → Prop
  | asked {unit : TestUnit} {message : String} {trace : List (Session.Exchange (World E))}
      {ended : Except Thrown Unit} (hreports : unit.capabilities.notExecutedReport = true)
      (hplayed : ((conducts unit).reportNotExecuted message).PlayedIn trace ended) :
      Made conducts { unit, trace, ended }
  | complained {unit : TestUnit} {trace : List (Session.Exchange (World E))}
      (hmute : unit.capabilities.notExecutedReport = false)
      (herrands : Session.errands trace = [])
      (hcomplaints : Session.complaints trace = [unit.complaint]) :
      Made conducts { unit, trace, ended := .ok () }

variable {conducts : Conducts E} {report : UnitReport E}

private theorem Made.reported (h : report.Made conducts) :
    Reported conducts [report.unit] report.trace := by
  cases h with
  | asked hreports hplayed =>
    obtain ⟨played, hpath, herrands, hcomplaints, -⟩ := hplayed
    refine ⟨fun announced hannounces => ?_, ?_⟩
    · rw [herrands, (hannounces _ List.mem_cons_self).report _ _ _ hpath]
      simp [reporters, hreports]
    · rw [hcomplaints]
      simp [nonReporters, hreports]
  | complained hmute herrands hcomplaints =>
    refine ⟨fun announced _ => ?_, ?_⟩
    · rw [herrands]
      simp [reporters, hmute]
    · rw [hcomplaints]
      simp [nonReporters, hmute]

/-- The report of a tame unit throws nothing in a calm conversation. -/
theorem Made.returns (h : report.Made conducts) (hcalm : Session.Calm report.trace)
    (htame : (conducts report.unit).Tame) : report.thrown? = none := by
  cases h with
  | asked hreports hplayed =>
    obtain ⟨played, hpath, -, -, hheard⟩ := hplayed
    obtain rfl := htame.report _ _ _ hpath (hheard hcalm)
    rfl
  | complained hmute herrands hcomplaints => rfl

/-- Reports made one after another report their units in that order. -/
theorem reported_flatMap {reports : List (UnitReport E)}
    (h : ∀ report ∈ reports, report.Made conducts) :
    Reported conducts (reports.map (·.unit)) (reports.flatMap (·.trace)) := by
  induction reports with
  | nil => exact .nil Session.uneventful_nil
  | cons report rest ih =>
    obtain ⟨hreport, hrest⟩ := List.forall_mem_cons.mp h
    exact hreport.reported.append (ih hrest)

end UnitReport

namespace Station

variable {conducts : Conducts E} {first last : Station} {unit : TestUnit} {message : String}
  {trace : List (Session.Exchange (World E))} {result : Except Thrown Unit}

/-- The station after some units have been drained from the pool. -/
def afterDrain (drained : List TestUnit) (network : Network) (pool : WorkPool)
    (station : Station) : Station where
  poller := { station.poller with
    network
    asked := station.poller.asked ++ reporters drained
    unreportable := station.poller.unreportable ++ nonReporters drained }
  floor := { station.floor with pool }

private theorem afterDrain_nil (station : Station) :
    station.afterDrain [] station.poller.network station.floor.pool = station := by
  simp [afterDrain, reporters, nonReporters]

private theorem afterDrain_afterDrain (drained more : List TestUnit) (network between : Network)
    (pool mid : WorkPool) (station : Station) :
    (station.afterDrain drained between mid).afterDrain more network pool =
      station.afterDrain (drained ++ more) network pool := by
  simp [afterDrain, reporters, nonReporters]

/-- A unit is asked to report if it can, and complained about otherwise. -/
theorem ends_reportUnit (h : (reportUnit conducts unit message).Ends first trace result last) :
    (∃ network, last = first.afterDrain [unit] network first.floor.pool) ∧
      UnitReport.Made conducts { unit, trace, ended := result } := by
  unfold reportUnit at h
  split at h
  · rename_i hreports
    rw [Flow.ends_modify_bind] at h
    obtain ⟨network, hplay, rfl⟩ := Flow.ends_within.mp h
    refine ⟨⟨network, ?_⟩, .asked hreports (Poller.playedIn_play hplay)⟩
    simp [afterDrain, updatePoller, reporters, nonReporters, hreports]
  · rename_i hmute
    rw [Bool.not_eq_true] at hmute
    rw [Flow.ends_modify_bind, log, Flow.ends_get_bind] at h
    obtain ⟨_, hlogged, rfl, rfl⟩ := Flow.ends_work.mp h
    obtain rfl := Flow.path_request.mp hlogged
    refine ⟨⟨first.poller.network, ?_⟩, .complained hmute rfl (Session.complaints_log rfl _)⟩
    simp [afterDrain, updatePoller, reporters, nonReporters, hmute]

/-- To report a unit leaves the floor as it is. -/
theorem floor_of_reportUnit (h : (reportUnit conducts unit message).Ends first trace result last) :
    last.floor = first.floor := by
  obtain ⟨⟨network, rfl⟩, -⟩ := ends_reportUnit h
  rfl

/-- Units are taken out of the pool and asked to report or complained about, one after the other,
until the pool is as `done` says or a report throws. -/
inductive Drains (conducts : Conducts E) (done : WorkPool → Prop) :
    Station → List (Session.Exchange (World E)) → Except Thrown Unit → Station → Prop where
  | finished {station : Station} (hdone : done station.floor.pool) :
      Drains conducts done station [] (.ok ()) station
  | stopped {first last : Station} {unit : TestUnit} {message : String} {rest : WorkPool}
      {trace : List (Session.Exchange (World E))} {thrown : Thrown}
      (hwithdraws : first.floor.pool.Withdraws (some unit) rest)
      (hreport : (reportUnit conducts unit message).Ends (first.putPool rest) trace
        (.error thrown) last) :
      Drains conducts done first trace (.error thrown) last
  | goesOn {first mid last : Station} {unit : TestUnit} {message : String} {rest : WorkPool}
      {before after : List (Session.Exchange (World E))} {result : Except Thrown Unit}
      (hwithdraws : first.floor.pool.Withdraws (some unit) rest)
      (hreport : (reportUnit conducts unit message).Ends (first.putPool rest) before (.ok ()) mid)
      (hlater : Drains conducts done mid after result last) :
      Drains conducts done first (before ++ after) result last

section Draining

variable {done other : WorkPool → Prop} {mid : Station}
  {before after : List (Session.Exchange (World E))}

/-- A part that ends is followed by the next one. -/
theorem Drains.append (h : Drains conducts done first before (.ok ()) mid)
    (hlater : Drains conducts other mid after result last) :
    Drains conducts other first (before ++ after) result last := by
  generalize hended : (.ok () : Except Thrown Unit) = ended at h
  induction h with
  | finished => exact hlater
  | stopped => cases hended
  | goesOn hwithdraws hreport _ ih =>
    rw [List.append_assoc]
    exact .goesOn hwithdraws hreport (ih hlater hended)

/-- A part that throws is the last one. -/
theorem Drains.of_error {thrown : Thrown}
    (h : Drains conducts done first trace (.error thrown) last) :
    Drains conducts other first trace (.error thrown) last := by
  generalize hended : (.error thrown : Except Thrown Unit) = ended at h ⊢
  induction h with
  | finished => cases hended
  | stopped hwithdraws hreport => exact .stopped hwithdraws hreport
  | goesOn hwithdraws hreport _ ih => exact .goesOn hwithdraws hreport (ih hended)

/-- A unit is taken out and reported before the rest of the pool is. -/
theorem drains_cons {rest : WorkPool} {reportRest : Flow E Station Unit}
    (hwithdraws : first.floor.pool.Withdraws (some unit) rest)
    (hrest : ∀ mid trace result last, mid.floor.pool = rest →
      reportRest.Ends mid trace result last → Drains conducts done mid trace result last)
    (h : (do
      modify (putPool rest)
      reportUnit conducts unit message
      reportRest : Flow E Station Unit).Ends first trace result last) :
    Drains conducts done first trace result last := by
  rw [Flow.ends_modify_bind] at h
  rcases Flow.ends_bind.mp h with
    ⟨thrown, hreport, rfl⟩ | ⟨⟨⟩, before, after, mid, rfl, hreport, hlater⟩
  · exact .stopped hwithdraws hreport
  · have hpool : mid.floor.pool = rest := by rw [floor_of_reportUnit hreport]; rfl
    exact .goesOn hwithdraws hreport (hrest mid after result last hpool hlater)

private theorem drains_reportRejected {pool : WorkPool} (hpool : first.floor.pool = pool)
    (hformed : pool.WellFormed)
    (h : (reportRejected conducts pool).Ends first trace result last) :
    Drains conducts (·.rejections = []) first trace result last := by
  induction hlength : pool.rejections.length using Nat.strongRecOn
    generalizing pool first trace result last with
  | ind length ih =>
    subst hpool
    have hwithdraws := hformed.withdraws_drainRejected
    rw [reportRejected] at h
    split at h
    · rename_i hdrain
      obtain ⟨rfl, rfl, rfl⟩ := Flow.ends_pure.mp h
      exact .finished (WorkPool.drainRejected_eq_none.mp (congrArg Prod.fst hdrain))
    · rename_i unit rest hdrain
      rw [hdrain] at hwithdraws
      refine drains_cons hwithdraws (fun mid trace result last hmid hrest => ?_) h
      exact ih _ (hlength ▸ WorkPool.length_rejections_drainRejected hdrain) hmid
        hwithdraws.wellFormed hrest rfl

private theorem drains_reportRemaining {pool : WorkPool} (hpool : first.floor.pool = pool)
    (hformed : pool.WellFormed)
    (h : (reportRemaining conducts pool).Ends first trace result last) :
    Drains conducts (·.units = []) first trace result last := by
  induction hsize : pool.size using Nat.strongRecOn
    generalizing pool first trace result last with
  | ind size ih =>
    subst hpool
    have hwithdraws := hformed.withdraws_drainRemaining
    rw [reportRemaining] at h
    split at h
    · rename_i hdrain
      obtain ⟨rfl, rfl, rfl⟩ := Flow.ends_pure.mp h
      obtain ⟨hgeneric, hgated⟩ := WorkPool.drainRemaining_eq_none.mp (congrArg Prod.fst hdrain)
      exact .finished (by rw [WorkPool.units, hgeneric, hgated]; rfl)
    · rename_i unit rest hdrain
      rw [hdrain] at hwithdraws
      refine drains_cons hwithdraws (fun mid trace result last hmid hrest => ?_) h
      exact ih _ (hsize ▸ WorkPool.size_drainRemaining hdrain) hmid hwithdraws.wellFormed hrest rfl

end Draining

/-- What a part of the final report comes to. Units are taken out of the pool and have their
reports, in turn. If one throws, it is the last one; otherwise the pool is as `done` says in the
end. -/
structure Reports (conducts : Conducts E) (done : WorkPool → Prop) (first : Station)
    (trace : List (Session.Exchange (World E))) (result : Except Thrown Unit)
    (reports : List (UnitReport E)) (last : Station) : Prop where
  trace_eq : trace = reports.flatMap (·.trace)
  made : ∀ report ∈ reports, report.Made conducts
  inTurn : InTurn UnitReport.unit UnitReport.thrown? (reports.map (·.unit)) reports
  last_eq : ∃ network pool, last = first.afterDrain (reports.map (·.unit)) network pool
  served : first.floor.pool.Serves (reports.map (·.unit)) last.floor.pool
  finished : result = .ok () → reports.findSome? UnitReport.thrown? = none ∧ done last.floor.pool
  stopped : ∀ thrown, result = .error thrown →
    reports.findSome? UnitReport.thrown? = some thrown

variable {done : WorkPool → Prop}

/-- In whatever way the pool is drained, the units have their reports in turn. -/
theorem Drains.reports (h : Drains conducts done first trace result last)
    (hformed : first.floor.pool.WellFormed) :
    ∃ reports, Reports conducts done first trace result reports last := by
  induction h with
  | @finished station hdone =>
    refine ⟨[], ?_⟩
    exact
      { trace_eq := rfl
        made := by simp
        inTurn := .finished
        last_eq := ⟨_, _, station.afterDrain_nil.symm⟩
        served := hformed.withdraws_none
        finished := fun _ => ⟨rfl, hdone⟩
        stopped := nofun }
  | @stopped first last unit message rest trace thrown hwithdraws hreport =>
    obtain ⟨⟨network, rfl⟩, hmade⟩ := ends_reportUnit hreport
    let report : UnitReport E := { unit, trace, ended := .error thrown }
    refine ⟨[report], ?_⟩
    exact
      { trace_eq := by simp [report]
        made := List.forall_mem_singleton.mpr hmade
        inTurn := .single _ _ report
        last_eq := ⟨network, rest, rfl⟩
        served := hwithdraws
        finished := nofun
        stopped := fun _ h => by cases h; rfl }
  | @goesOn first mid last unit message rest before after result hwithdraws hreport _ ih =>
    obtain ⟨⟨network, rfl⟩, hmade⟩ := ends_reportUnit hreport
    obtain ⟨reports, hreports⟩ := ih hwithdraws.wellFormed
    obtain ⟨final, pool, hlast⟩ := hreports.last_eq
    let report : UnitReport E := { unit, trace := before, ended := .ok () }
    have hsilent : report.thrown? = none := rfl
    refine ⟨report :: reports, ?_⟩
    exact
      { trace_eq := by rw [hreports.trace_eq]; rfl
        made := List.forall_mem_cons.mpr ⟨hmade, hreports.made⟩
        inTurn := .goesOn hsilent hreports.inTurn
        last_eq := ⟨final, pool,
          hlast.trans (afterDrain_afterDrain [unit] _ final network pool rest first)⟩
        served := hwithdraws.trans hreports.served
        finished := hreports.finished
        stopped := hreports.stopped }

/-- The units some device turned down come first. -/
theorem drains_reportNotExecuted (hformed : first.floor.pool.WellFormed)
    (h : (reportNotExecuted conducts).Ends first trace result last) :
    Drains conducts (·.units = []) first trace result last := by
  rw [reportNotExecuted, Flow.ends_get_bind] at h
  rcases Flow.ends_bind.mp h with
    ⟨thrown, hrejected, rfl⟩ | ⟨⟨⟩, before, after, mid, rfl, hrejected, hremaining⟩
  · exact (drains_reportRejected rfl hformed hrejected).of_error
  · have hfirst := drains_reportRejected rfl hformed hrejected
    obtain ⟨reports, hreports⟩ := hfirst.reports hformed
    rw [Flow.ends_get_bind] at hremaining
    exact hfirst.append (drains_reportRemaining rfl hreports.served.wellFormed hremaining)

/-- The reports of tame units throw nothing in a calm conversation. -/
theorem Reports.returns {reports : List (UnitReport E)}
    (h : Reports conducts done first trace result reports last) (hcalm : Session.Calm trace)
    (htame : ∀ unit ∈ first.floor.pool.units, (conducts unit).Tame) : result = .ok () := by
  have hsilent : reports.findSome? UnitReport.thrown? = none := by
    rw [List.findSome?_eq_none_iff]
    intro report hreport
    refine (h.made report hreport).returns ?_ (htame _ (h.served.mem_of_mem_returned ?_))
    · intro exchange hexchange
      exact hcalm exchange (h.trace_eq ▸ List.mem_flatMap.mpr ⟨report, hreport, hexchange⟩)
    · exact List.mem_map_of_mem hreport
  rcases result with thrown | ⟨⟨⟩⟩
  · rw [h.stopped thrown rfl] at hsilent
    cases hsilent
  · rfl

/-- What is logged of something that a report threw. -/
def failureText : Thrown → String
  | .standard what => what
  | .other => "unknown exception while reporting not executed units"

/-- The pool is drained until a report throws, which is logged. Nothing is thrown any further. -/
theorem drains_finalReport (hformed : first.floor.pool.WellFormed)
    (h : (finalReport conducts).Ends first trace result last) :
    result = .ok () ∧ ∃ reported logged attempted, trace = reported ++ logged ∧
      Drains conducts (·.units = []) first reported attempted last ∧
      (attempted = .ok () → logged = []) ∧
      ∀ thrown, attempted = .error thrown → logged = [⟨.inl (.log
        (last.entry .error "report_not_executed_failed" (failureText thrown))), ()⟩] := by
  obtain ⟨attempted, reported, logged, mid, rfl, hreport, h⟩ := Flow.ends_attempt_bind.mp h
  have hdrains := drains_reportNotExecuted hformed hreport
  have hends : result = .ok () ∧ last = mid ∧ (attempted = .ok () → logged = []) ∧
      ∀ thrown, attempted = .error thrown → logged = [⟨.inl (.log
        (mid.entry .error "report_not_executed_failed" (failureText thrown))), ()⟩] := by
    rcases attempted with (what | _) | ⟨⟨⟩⟩
    · obtain ⟨rfl, rfl, rfl⟩ := ends_log h
      exact ⟨rfl, rfl, nofun, fun _ h => by cases h; rfl⟩
    · obtain ⟨rfl, rfl, rfl⟩ := ends_log h
      exact ⟨rfl, rfl, nofun, fun _ h => by cases h; rfl⟩
    · obtain ⟨rfl, rfl, rfl⟩ := Flow.ends_pure.mp h
      exact ⟨rfl, rfl, fun _ => rfl, nofun⟩
  obtain ⟨rfl, rfl, hsilent, hfailure⟩ := hends
  exact ⟨rfl, reported, logged, attempted, rfl, hdrains, hsilent, hfailure⟩

/-- Units have their reports in turn up to the first one that throws; those still in the pool then
stay there. -/
theorem reports_finalReport (hformed : first.floor.pool.WellFormed)
    (h : (finalReport conducts).Ends first trace result last) :
    result = .ok () ∧ ∃ reported logged attempted reports, trace = reported ++ logged ∧
      Reports conducts (·.units = []) first reported attempted reports last ∧
      (attempted = .ok () → logged = []) ∧
      ∀ thrown, attempted = .error thrown → logged = [⟨.inl (.log
        (last.entry .error "report_not_executed_failed" (failureText thrown))), ()⟩] := by
  obtain ⟨rfl, reported, logged, attempted, rfl, hdrains, hlogged⟩ := drains_finalReport hformed h
  obtain ⟨reports, hreports⟩ := hdrains.reports hformed
  exact ⟨rfl, reported, logged, attempted, reports, rfl, hreports, hlogged⟩

/-- The final report never throws. With tame units, in a calm conversation, it empties the pool. -/
theorem ends_finalReport (hformed : first.floor.pool.WellFormed)
    (h : (finalReport conducts).Ends first trace result last) :
    result = .ok () ∧ ∃ drained network pool, last = first.afterDrain drained network pool ∧
      first.floor.pool.Serves drained pool ∧ Reported conducts drained trace ∧
      (Session.Calm trace → (∀ unit ∈ first.floor.pool.units, (conducts unit).Tame) →
        pool.units = []) := by
  obtain ⟨rfl, reported, logged, attempted, reports, rfl, hreports, hsilent, hfailure⟩ :=
    reports_finalReport hformed h
  obtain ⟨network, pool, rfl⟩ := hreports.last_eq
  refine ⟨rfl, _, network, pool, rfl, hreports.served, ?_, fun hcalm htame => ?_⟩
  · have huneventful : Session.Uneventful logged := by
      cases attempted with
      | ok _ =>
        rw [hsilent rfl]
        exact Session.uneventful_nil
      | error thrown =>
        have hevent : "report_not_executed_failed" ≠ unreportableEvent := by decide
        rw [hfailure thrown rfl]
        exact Session.uneventful_log hevent
    have hreported := hreports.trace_eq ▸ UnitReport.reported_flatMap hreports.made
    simpa using hreported.append (Reported.nil huneventful)
  · exact (hreports.finished (hreports.returns (Session.calm_append.mp hcalm).1 htame)).2

end Station

end Fleet
