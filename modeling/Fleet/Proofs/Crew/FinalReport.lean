import Fleet.Proofs.Crew.Basic

/-!
# The final report of a crew

Whatever the listeners and the units do, the last poller out takes the units left in the pool one by
one, and each of them is asked to report or complained about once. A report that throws ends the
final report: the units behind it stay in the pool, and nobody hears of them.
-/

namespace Fleet

namespace Conduct

/-- A unit that announces its calls, runs well and throws when it is asked to report. -/
def refusing (thrown : Thrown) (unit : TestUnit) : Conduct .callbook :=
  { announcing [] (.ok (.ok ())) unit with
    reportNotExecuted := fun _ => .ask (.inr (.report unit)) fun _ => .done (.error thrown) }

end Conduct

namespace Station

variable {E : Interface} {conducts : Conducts E} {station last : Station} {exit : Exit}
  {trace : List (Session.Exchange (World E))}

/-- The step in which a poller does the final report: reports are made in turn until the pool is
empty or one throws. -/
theorem reports_of_step (hformed : station.floor.pool.WellFormed)
    (hphase : station.poller.phase = .reporting exit)
    (hstep : (Station.step conducts station).Path trace last) :
    ∃ mid reported logged attempted reports, trace = reported ++ logged ∧
      Reports conducts (·.units = []) station reported attempted reports mid ∧
      (attempted = .ok () → logged = []) ∧
      (∀ thrown, attempted = .error thrown → logged = [⟨.inl (.log (mid.entry .error
        "report_not_executed_failed" (failureText thrown))), ()⟩]) ∧
      last.floor = mid.floor ∧ last.poller = { mid.poller with phase := .left exit } := by
  obtain ⟨result, mid, hact, rfl⟩ := ends_of_step hstep
  rw [hphase] at hact
  rcases Flow.ends_bind.mp hact with
    ⟨thrown, hthrown, -⟩ | ⟨⟨⟩, said, rest, mid, rfl, hreported, hrest⟩
  · cases (reports_finalReport hformed hthrown).1
  obtain ⟨-, reported, logged, attempted, reports, rfl, hreports, hsilent, hfailure⟩ :=
    reports_finalReport hformed hreported
  obtain ⟨rfl, rfl, rfl⟩ := Flow.ends_pure.mp hrest
  rw [List.append_nil]
  exact ⟨mid, reported, logged, attempted, reports, rfl, hreports, hsilent, hfailure, rfl, rfl⟩

end Station

namespace Turn

variable {E : Interface} {conducts : Conducts E} {turn : Turn} {exit : Exit}
  {said : List (Session.Exchange (World E))}

/-- The final report of a turn: some of the units in the pool had their reports, the others are
still there. Nothing is left in the pool unless a report threw. -/
structure Drained (conducts : Conducts E) (said : List (Session.Exchange (World E)))
    (reports : List (UnitReport E)) (turn : Turn) : Prop where
  told : reports.flatMap (·.trace) <+: said
  made : ∀ report ∈ reports, report.Made conducts
  units : (reports.map (·.unit) ++ turn.after.floor.pool.units).Perm turn.before.floor.pool.units
  left : turn.after.floor.pool.units = [] ∨ ∃ report ∈ reports, report.thrown?.isSome = true

/-- A step in the reporting phase drains the pool, up to a report that throws. -/
theorem drained_of_step (hformed : turn.before.floor.pool.WellFormed)
    (hphase : turn.before.poller.phase = .reporting exit)
    (hstep : (Station.step conducts turn.before).Path said turn.after) :
    ∃ reports, turn.Drained conducts said reports := by
  obtain ⟨mid, reported, logged, attempted, reports, rfl, hreports, -, -, hfloor, -⟩ :=
    Station.reports_of_step hformed hphase hstep
  refine ⟨reports, ?_⟩
  constructor
  case told => exact hreports.trace_eq ▸ List.prefix_append _ _
  case made => exact hreports.made
  case units => exact hfloor ▸ hreports.served.units.symm
  case left =>
    rcases attempted with thrown | ⟨⟨⟩⟩
    · have hthrown := hreports.stopped thrown rfl
      obtain ⟨report, hreport, hsome⟩ := List.exists_of_findSome?_eq_some hthrown
      exact .inr ⟨report, hreport, by rw [hsome]; rfl⟩
    · exact .inl (hfloor ▸ (hreports.finished rfl).2)

end Turn

namespace Crew

variable {E : Interface} {conducts : Conducts E} {generic gated : List (Option TestUnit)}
  {registry : Option TokenRegistry} {rank : TestUnit → Nat} {resources : List Resources}
  {schedule : List Nat}
  {index : Nat} {poller : Poller} {exit : Exit} {crew next : Crew}
  {earlier trace : List (Session.Exchange (World E))}

/-- The last poller out, on any floor that any play can lead to, with any listeners and units. Some
of the units still in the pool have their reports, one after another, and the others stay there. The
reports go on until the pool is empty or one throws; what it throws is logged, and the poller leaves
as it would have left. -/
theorem reports_until_one_throws
    (hplay : ((start (.ofUnits rank generic gated registry) resources).play conducts schedule).Path
      earlier crew)
    (hpoller : crew.pollers[index]? = some poller) (hphase : poller.phase = .reporting exit)
    (hstep : (crew.step conducts index).Path trace next) :
    ∃ (reports : List (UnitReport E)) (logged : List (Session.Exchange (World E))) (last : Poller),
      trace = reports.flatMap (·.trace) ++ logged ∧
      (∀ report ∈ reports, report.Made conducts) ∧
      (reports.map (·.unit) ++ next.floor.pool.units).Nodup ∧
      (reports.map (·.unit) ++ next.floor.pool.units).Perm crew.floor.pool.units ∧
      InTurn UnitReport.unit UnitReport.thrown?
        (reports.map (·.unit) ++ next.floor.pool.units) reports ∧
      (reports.findSome? UnitReport.thrown? = none → logged = [] ∧ next.floor.pool.units = []) ∧
      (∀ thrown, reports.findSome? UnitReport.thrown? = some thrown →
        logged = [⟨.inl (.log (Station.entry .error "report_not_executed_failed"
          (Station.failureText thrown) { poller, floor := crew.floor })), ()⟩]) ∧
      next.pollers[index]? = some last ∧ last.phase = .left exit := by
  have hformed : crew.floor.pool.WellFormed := wellFormed_play WorkPool.wellFormed_ofUnits hplay
  obtain ⟨last, hlast, hafter⟩ := path_step hpoller hstep
  obtain ⟨mid, reported, logged, attempted, reports, rfl, hreports, hsilent, hfailure, hdrained,
    hleft⟩ := Station.reports_of_step hformed hphase hlast
  have hfloor : next.floor = mid.floor := hafter ▸ hdrained
  have hnext : next.pollers[index]? = some last.poller := by
    rw [hafter]
    exact List.getElem?_set_self (List.getElem?_eq_some_iff.mp hpoller).1
  obtain ⟨network, pool, rfl⟩ := hreports.last_eq
  have hperm : (reports.map (·.unit) ++ next.floor.pool.units).Perm crew.floor.pool.units := by
    rw [hfloor]
    exact hreports.served.units.symm
  refine ⟨reports, logged, _, by rw [hreports.trace_eq], hreports.made,
    hperm.nodup_iff.mpr hformed.units_nodup, hperm, ?_, ?_, ?_, hnext, by rw [hleft]⟩
  all_goals
    rcases attempted with thrown | ⟨⟨⟩⟩
  · exact hreports.inTurn.append_of_stopped (hreports.stopped thrown rfl) _
  · have hempty : next.floor.pool.units = [] := hfloor ▸ (hreports.finished rfl).2
    rw [hempty, List.append_nil]
    exact hreports.inTurn
  · rw [hreports.stopped thrown rfl]
    nofun
  · exact fun _ => ⟨hsilent rfl, hfloor ▸ (hreports.finished rfl).2⟩
  · rw [hreports.stopped thrown rfl]
    rintro _ ⟨⟩
    exact hfailure thrown rfl
  · rw [(hreports.finished rfl).1]
    nofun

/-- Of two units left over, the first one throws when it is asked to report. -/
theorem reports_until_one_throws_two_units :
    let reporting : Capabilities := { notExecutedReport := true }
    let refuser : TestUnit := { TestUnit.plain 0 "a" ["sim"] with capabilities := reporting }
    let waiting : TestUnit := { TestUnit.plain 1 "b" ["sim"] with capabilities := reporting }
    let conducts : Conducts .callbook := fun unit =>
      if unit = refuser then .refusing (.standard "boom") unit
      else .announcing [] (.ok (.ok ())) unit
    let resources : List Resources := [{ device := ⟨"d1", .physical⟩ }]
    ∃ earlier crew poller exit trace next,
      ((start (.ofUnits WorkPool.asGiven [] [some refuser, some waiting] none) resources).play
        conducts [0, 0, 0, 0]).Path earlier crew ∧
      crew.pollers[0]? = some poller ∧ poller.phase = .reporting exit ∧
      (crew.step conducts 0).Path trace next ∧
      ∃ reports : List (UnitReport .callbook),
        (∀ report ∈ reports, report.Made conducts) ∧
        (reports.map (·.unit) ++ next.floor.pool.units).Perm [refuser, waiting] ∧
        InTurn UnitReport.unit UnitReport.thrown?
          (reports.map (·.unit) ++ next.floor.pool.units) reports := by
  intro reporting refuser waiting conducts resources
  let answer := Session.obligingWorld (E := .callbook) (fun _ _ => false) fun _ => ()
  let playing : Work .callbook Crew :=
    (start (.ofUnits WorkPool.asGiven [] [some refuser, some waiting] none) resources).play conducts
      [0, 0, 0, 0]
  let played := playing.converse answer
  have hplay : playing.Path played.1 played.2 := Session.path_converse answer playing
  let reportingStep : Work .callbook Crew := played.2.step conducts 0
  let reported := reportingStep.converse answer
  have hstep : reportingStep.Path reported.1 reported.2 :=
    Session.path_converse answer reportingStep
  obtain ⟨poller, hpoller, hphase⟩ :
      ∃ poller, played.2.pollers[0]? = some poller ∧ poller.phase = .reporting (.ok (.ok ())) :=
    ⟨_, rfl, rfl⟩
  obtain ⟨reports, -, -, -, hmade, -, hperm, hinTurn, -⟩ :=
    reports_until_one_throws hplay hpoller hphase hstep
  have hunits : played.2.floor.pool.units = [refuser, waiting] := by decide
  rw [hunits] at hperm
  exact ⟨played.1, played.2, poller, .ok (.ok ()), reported.1, reported.2, hplay, hpoller, hphase,
    hstep, reports, hmade, hperm, hinTurn⟩

/-- A unit whose turn comes after a report that throws is neither asked to report nor complained
about, though every poller has left. No device has turned either of the two units down, so they
have their turns in the order in which they were given, whichever of them the ranks of the pool
prefer. -/
theorem unit_lost_behind_throwing_report :
    let reporting : Capabilities := { notExecutedReport := true }
    let doomed := TestUnit.plain 0 "x" []
    let refuser : TestUnit := { TestUnit.plain 1 "a" [] with capabilities := reporting }
    let waiting : TestUnit := { TestUnit.plain 2 "b" [] with capabilities := reporting }
    let conducts : Conducts .callbook := fun unit =>
      if unit = refuser then .refusing (.standard "boom") unit
      else .announcing [] (.ok (.error (.deviceNotAvailable "gone" "d1"))) unit
    let resources : List Resources := [{ device := ⟨"d1", .physical⟩ }]
    ∀ preferred ∈ [refuser, waiting], ∃ trace last,
      ((start (.ofUnits (if · = preferred then 0 else 1) []
        [some doomed, some refuser, some waiting] none) resources).play conducts
          (List.replicate 7 0)).Path trace last ∧
      Session.Calm trace ∧
      (∀ poller ∈ last.pollers, poller.exit?.isSome = true) ∧ last.floor.pool.units = [waiting] ∧
      Session.errands trace = [.run doomed, .report refuser] ∧ Session.complaints trace = [] := by
  intro reporting doomed refuser waiting conducts resources preferred hpreferred
  let answer := Session.obligingWorld (E := .callbook) (fun _ _ => false) fun _ => ()
  let session (preferred : TestUnit) : Work .callbook Crew :=
    (start (.ofUnits (if · = preferred then 0 else 1) []
      [some doomed, some refuser, some waiting] none) resources).play conducts (List.replicate 7 0)
  let course (preferred : TestUnit) := (session preferred).converse answer
  have hplay : (session preferred).Path (course preferred).1 (course preferred).2 :=
    Session.path_converse answer _
  have hcalm : Session.Calm (course preferred).1 := Session.calm_converse_obligingWorld _ _ _
  have hlost : ∀ preferred ∈ [refuser, waiting],
      (∀ poller ∈ (course preferred).2.pollers, poller.exit?.isSome = true) ∧
        (course preferred).2.floor.pool.units = [waiting] ∧
        Session.errands (course preferred).1 = [.run doomed, .report refuser] ∧
        Session.complaints (course preferred).1 = [] := by
    decide +kernel
  exact ⟨_, _, hplay, hcalm, hlost preferred hpreferred⟩

end Crew

end Fleet
