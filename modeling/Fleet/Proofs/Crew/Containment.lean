import Fleet.Proofs.Crew.SignOut
import Fleet.Proofs.Poller.Containment

/-!
# Why pollers leave

While no listener throws, a poller survives the failures of its units: a run that fails short of
losing the device, or throws a standard exception, and options that do not pass. It leaves when the
pool has nothing more for it, when its device is lost, or when something is thrown that no handler
stands around: by its collectors, by a unit that is handed its dependencies, by the options of a
unit or one of their checks, or by a run if it is no standard exception.
-/

namespace Fleet

variable {E : Interface} {conducts : Conducts E}

/-- The poller has not decided how it leaves, and has its device recovered only if that was lost. -/
def Phase.GoesOn : Phase → Prop
  | .recovering _ error => error.isDeviceLoss = true
  | .leaving _ | .reporting _ | .left _ => False
  | _ => True

private theorem Phase.GoesOn.decided {phase : Phase} (h : phase.GoesOn) :
    phase.decided? = none := by
  cases phase <;> first | rfl | exact h.elim

/-- All the reasons for a poller to leave. -/
inductive Station.Decides (conducts : Conducts E) (trace : List (Session.Exchange (World E)))
    (station : Station) : Exit → Prop
  | drained (hphase : station.poller.phase = .seekingGeneric) : Decides conducts trace station
      (.ok (.ok ()))
  | unwired {thrown : Thrown} (hphase : station.poller.phase = .wiringCollectors) :
      Decides conducts trace station (.error thrown)
  | unequipped {unit : TestUnit} {dependency : Dependency} {thrown : Thrown}
      (hphase : station.poller.phase = .dispatching unit)
      (hthrown : ⟨.inl (.provide unit dependency), .error thrown⟩ ∈ trace) :
      Decides conducts trace station (.error thrown)
  | unvalidated {unit : TestUnit} {thrown : Thrown}
      (hphase : station.poller.phase = .dispatching unit)
      (hvalidate : (conducts unit).validate "validation" unit.name = .error thrown) :
      Decides conducts trace station (.error thrown)
  | crashed {unit : TestUnit} (hphase : station.poller.phase = .executing unit)
      (hattempts : Poller.Attempts (conducts unit) station.poller.resources unit trace
        (.error .other)) :
      Decides conducts trace station (.error .other)
  | lost {unit : TestUnit} {error : TaskError} (hphase : station.poller.phase = .executing unit)
      (hattempts : Poller.Attempts (conducts unit) station.poller.resources unit trace
        (.ok (.error error)))
      (hloss : error.isDeviceLoss = true) :
      Decides conducts trace station (.ok (.error error))
  | unrecovered {unit : TestUnit} {error : TaskError}
      (hphase : station.poller.phase = .recovering unit error)
      (hloss : error.isDeviceLoss = true) :
      Decides conducts trace station (.ok (.error error))

namespace Station

variable {first last : Station} {trace : List (Session.Exchange (World E))}

/-- A poller that no listener has thrown out goes on, with the recovery of its device only after it
was lost, or it leaves for one of the reasons. -/
theorem Contains.goesOn_or_decides (h : first.Contains conducts trace last)
    (hlost : ∀ unit error, first.poller.phase = .recovering unit error →
      error.isDeviceLoss = true)
    (hundecided : first.poller.phase.decided? = none) :
    last.poller.phase.GoesOn ∨
      ∃ exit, last.poller.phase.decided? = some exit ∧ first.Decides conducts trace exit := by
  cases hphase : first.poller.phase with
  | wiringCollectors =>
    rcases h.wired hphase with hnext | ⟨thrown, hnext⟩
    · rw [hnext]
      exact .inl trivial
    · rw [hnext]
      exact .inr ⟨_, rfl, .unwired hphase⟩
  | seekingGated =>
    have hseeks : first.poller.phase.Seeks .seekingGeneric := hphase ▸ .gated
    obtain ⟨found, -, -, hnext⟩ := h.sought _ hseeks
    rw [hnext]
    cases found <;> exact .inl trivial
  | seekingGeneric =>
    have hseeks : first.poller.phase.Seeks (.leaving (.ok (.ok ()))) := hphase ▸ .generic
    obtain ⟨found, -, -, hnext⟩ := h.sought _ hseeks
    rw [hnext]
    cases found with
    | none => exact .inr ⟨_, rfl, .drained hphase⟩
    | some unit => exact .inl trivial
  | dispatching unit =>
    rcases h.dispatched unit hphase with ⟨dependency, thrown, hthrown, hnext⟩ | hnext
    · rw [hnext]
      exact .inr ⟨_, rfl, .unequipped hphase hthrown⟩
    · rw [hnext]
      cases hvalidate : (conducts unit).validate "validation" unit.name with
      | error thrown => exact .inr ⟨_, rfl, .unvalidated hphase hvalidate⟩
      | ok outcome => rcases outcome with error | ⟨⟨⟩⟩ <;> exact .inl trivial
  | executing unit =>
    obtain ⟨attempted, hattempts, hnext⟩ := h.executed unit hphase
    rw [hnext]
    rcases attempted with (what | _) | (error | ⟨⟨⟩⟩)
    · exact .inl trivial
    · exact .inr ⟨_, rfl, .crashed hphase hattempts⟩
    · rw [Phase.afterAttempt]
      split
      · rename_i hloss
        split
        · exact .inl hloss
        · exact .inr ⟨_, rfl, .lost hphase hattempts hloss⟩
      · exact .inl trivial
    · exact .inl trivial
  | recovering unit error =>
    rcases h.recovered unit error hphase with hnext | hnext
    · rw [hnext]
      exact .inl trivial
    · rw [hnext]
      exact .inr ⟨_, rfl, .unrecovered hphase (hlost unit error hphase)⟩
  | leaving _ | reporting _ | left _ =>
    rw [hphase] at hundecided
    cases hundecided

end Station

namespace Crew

variable {crew next last : Crew} {past trace : List (Session.Exchange (World E))} {turn : Turn}
  {index : Nat} {schedule : List Nat}

/-- Only lost devices are being recovered, and every poller that is about to leave or has left had a
reason at one of its turns. -/
structure Contained (conducts : Conducts E) (trace : List (Session.Exchange (World E)))
    (crew : Crew) : Prop where
  formed : crew.floor.pool.WellFormed
  losses : ∀ poller ∈ crew.pollers, ∀ unit error, poller.phase = .recovering unit error →
    error.isDeviceLoss = true
  decided : ∀ index poller exit, crew.pollers[index]? = some poller →
    poller.phase.decided? = some exit → ∃ turn ∈ crew.turns, ∃ said, said <:+: trace ∧
      turn.index = index ∧ turn.before.Decides conducts said exit

private theorem contained_start {pool : WorkPool} {resources : List Resources}
    (hformed : pool.WellFormed) : (start pool resources).Contained conducts [] where
  formed := hformed
  losses poller hpoller unit error hphase := by
    obtain ⟨_, -, rfl⟩ := List.mem_map.mp hpoller
    cases hphase
  decided index poller exit hpoller hdecided := by
    obtain ⟨_, -, rfl⟩ := List.mem_map.mp (List.mem_of_getElem? hpoller)
    cases hdecided

namespace Contained

private theorem losses_after (h : crew.Contained conducts past)
    (hturn : crew.Takes conducts trace turn)
    (hcontains : turn.before.Contains conducts trace turn.after) {poller : Poller}
    (hpoller : poller ∈ (crew.after turn).pollers) {unit : TestUnit} {error : TaskError}
    (hphase : poller.phase = .recovering unit error) : error.isDeviceLoss = true := by
  rcases List.mem_or_eq_of_mem_set hpoller with hpoller | rfl
  · exact h.losses poller hpoller unit error hphase
  have hundecided : turn.before.poller.phase.decided? = none := by
    cases hbefore : turn.before.poller.phase.decided? with
    | none => rfl
    | some exit => simpa [hphase, Phase.decided?] using hturn.move.decided hbefore
  have hlosses := h.losses _ (List.mem_of_getElem? hturn.poller)
  rcases hcontains.goesOn_or_decides hlosses hundecided with hgoesOn | ⟨exit, hexit, -⟩
  · rwa [hphase] at hgoesOn
  · rw [hphase] at hexit
    cases hexit

/-- A poller that has just decided how it leaves has a reason; the others have theirs. -/
theorem decided_after (h : crew.Contained conducts past) (hturn : crew.Takes conducts trace turn)
    (hcontains : turn.before.Contains conducts trace turn.after) {index : Nat} {poller : Poller}
    {exit : Exit} (hpoller : (crew.after turn).pollers[index]? = some poller)
    (hdecided : poller.phase.decided? = some exit) :
    ∃ other ∈ (crew.after turn).turns, ∃ said, said <:+: past ++ trace ∧
      other.index = index ∧ other.before.Decides conducts said exit := by
  have hearlier : ∀ {poller}, crew.pollers[index]? = some poller →
      poller.phase.decided? = some exit → ∃ other ∈ crew.turns ++ [turn], ∃ said,
        said <:+: past ++ trace ∧ other.index = index ∧
          other.before.Decides conducts said exit := by
    intro poller hpoller hdecided
    obtain ⟨other, hother, said, hsaid, hindex, hdecides⟩ :=
      h.decided index poller exit hpoller hdecided
    exact ⟨other, List.mem_append_left _ hother, said,
      hsaid.trans (List.prefix_append past trace).isInfix, hindex, hdecides⟩
  rcases hturn.cases_after hpoller with ⟨rfl, rfl⟩ | ⟨-, hpoller⟩
  · cases hbefore : turn.before.poller.phase.decided? with
    | none =>
      have hlosses := h.losses _ (List.mem_of_getElem? hturn.poller)
      rcases hcontains.goesOn_or_decides hlosses hbefore with hgoesOn | ⟨_, hexit, hdecides⟩
      · rw [hgoesOn.decided] at hdecided
        cases hdecided
      · obtain rfl := Option.some.inj (hexit.symm.trans hdecided)
        exact ⟨turn, List.mem_append_right _ List.mem_cons_self, trace,
          (List.suffix_append past trace).isInfix, rfl, hdecides⟩
    | some former =>
      have hsame := hturn.move.decided hbefore
      rw [hdecided] at hsame
      obtain rfl := Option.some.inj hsame
      exact hearlier hturn.poller hbefore
  · exact hearlier hpoller hdecided

private theorem after (h : crew.Contained conducts past) (hturn : crew.Takes conducts trace turn)
    (hcontains : turn.before.Contains conducts trace turn.after) :
    (crew.after turn).Contained conducts (past ++ trace) where
  formed := hturn.move.formed (hturn.floor ▸ h.formed)
  losses _ hpoller _ _ hphase := h.losses_after hturn hcontains hpoller hphase
  decided _ _ _ hpoller hdecided := h.decided_after hturn hcontains hpoller hdecided

private theorem step (h : crew.Contained conducts past)
    (hstep : (crew.step conducts index).Path trace next) (hheeded : Session.Heeded trace) :
    next.Contained conducts (past ++ trace) := by
  rcases step_cases hstep with ⟨-, rfl, rfl⟩ | ⟨poller, last, hpoller, hlast, rfl⟩
  · rwa [List.append_nil]
  · exact h.after ⟨hpoller, rfl, Station.move_of_step h.formed hlast⟩
      (Station.contains_of_step h.formed hlast hheeded)

private theorem play (h : crew.Contained conducts [])
    (hplay : (crew.play conducts schedule).Path trace last) (hheeded : Session.Heeded trace) :
    last.Contained conducts trace := by
  refine Session.invariant_follow
    (fun trace crew => Session.Heeded trace → crew.Contained conducts trace) ?_ (fun _ => h) hplay
    hheeded
  intro past index crew trace next hcrew hstep hheeded
  obtain ⟨hpast, hnow⟩ := Session.heeded_append.mp hheeded
  exact (hcrew hpast).step hstep hnow

end Contained

/-- Any number of pollers with any pool, in any order of their steps, as long as no listener throws:
at every turn the failure of the unit in hand reaches only as far as it should, and a poller leaves
for one of the reasons listed only. A run that fails short of losing the device or throws a standard
exception is none of them, and neither are options that do not pass; what the options or one of
their checks throw is. -/
theorem contained_whatever_schedule {generic gated : List (Option TestUnit)}
    {registry : Option TokenRegistry} {rank : TestUnit → Nat} {resources : List Resources}
    (hplay : ((start (.ofUnits rank generic gated registry) resources).play conducts schedule).Path
      trace last)
    (hheeded : Session.Heeded trace) :
    (∀ turn ∈ last.turns, ∃ said, said <:+: trace ∧ turn.before.Contains conducts said turn.after) ∧
    ∀ index poller exit, last.pollers[index]? = some poller →
      poller.phase.decided? = some exit → ∃ turn ∈ last.turns, ∃ said, said <:+: trace ∧
        turn.index = index ∧ turn.before.Decides conducts said exit := by
  have hcontained := (contained_start WorkPool.wellFormed_ofUnits).play hplay hheeded
  refine ⟨fun turn hturn => ?_, hcontained.decided⟩
  obtain ⟨hformed, said, hsaid, hstep⟩ :=
    exists_step_of_turn WorkPool.wellFormed_ofUnits rfl hplay turn hturn
  have hheeded : Session.Heeded said := fun exchange hexchange =>
    hheeded exchange (hsaid.subset hexchange)
  exact ⟨said, hsaid, Station.contains_of_step hformed hstep hheeded⟩

/-- A poller outlives a unit whose run throws and one without a mandatory option. -/
theorem contained_whatever_schedule_two_units :
    let needy : UnitOption := { name := "mode", value := none, mandatory := true, check := none }
    let crashing := TestUnit.plain 0 "a" []
    let unfit := TestUnit.plain 1 "b" []
    let conducts : Conducts .callbook := fun unit =>
      .announcing (if unit = unfit then [needy] else []) (.error (.standard "boom")) unit
    let resources : List Resources := [{ device := ⟨"d1", .physical⟩ }]
    ∃ trace last poller,
      ((start (.ofUnits WorkPool.asGiven [some crashing, some unfit] [] none) resources).play
        conducts (List.replicate 12 0)).Path trace last ∧
      Session.Heeded trace ∧
      (∀ turn ∈ last.turns, ∃ said, said <:+: trace ∧
        turn.before.Contains conducts said turn.after) ∧
      last.pollers[0]? = some poller ∧ poller.executed = [crashing] ∧ poller.dropped = [unfit] ∧
      poller.phase.decided? = some (.ok (.ok ())) ∧ ∃ turn ∈ last.turns, ∃ said, said <:+: trace ∧
        turn.index = 0 ∧ turn.before.Decides conducts said (.ok (.ok ())) := by
  intro needy crashing unfit conducts resources
  let answer := Session.obligingWorld (E := .callbook) (fun _ _ => false) fun _ => ()
  let session : Work .callbook Crew :=
    (start (.ofUnits WorkPool.asGiven [some crashing, some unfit] [] none) resources).play conducts
      (List.replicate 12 0)
  let course := session.converse answer
  have hplay : session.Path course.1 course.2 := Session.path_converse answer session
  have hheeded : Session.Heeded course.1 :=
    (Session.calm_converse_obligingWorld _ _ session).heeded
  obtain ⟨hcontains, hdecides⟩ := contained_whatever_schedule hplay hheeded
  obtain ⟨poller, hpoller, hexecuted, hdropped, hdecided⟩ :
      ∃ poller, course.2.pollers[0]? = some poller ∧ poller.executed = [crashing] ∧
        poller.dropped = [unfit] ∧ poller.phase.decided? = some (.ok (.ok ())) := by
    refine ⟨_, List.getElem?_eq_getElem (by decide +kernel), ?_⟩
    decide +kernel
  exact ⟨course.1, course.2, poller, hplay, hheeded, hcontains, hpoller, hexecuted, hdropped,
    hdecided, hdecides 0 poller _ hpoller hdecided⟩

/-- A unit whose options throw stops its poller, and is neither run nor dropped; the unit behind it
is never withdrawn. Gated units have their turns in the order in which they were given, so it makes
no difference which of the two the ranks of the pool prefer. -/
theorem poller_stopped_by_throwing_options :
    let faulty := TestUnit.plain 0 "a" []
    let waiting := TestUnit.plain 1 "b" []
    let conducts : Conducts .callbook := fun unit =>
      { Conduct.announcing [] (.ok (.ok ())) unit with
        options := if unit = faulty then .error (.standard "boom") else .ok [] }
    let resources : List Resources := [{ device := ⟨"d1", .physical⟩ }]
    ∀ preferred ∈ [faulty, waiting], ∃ trace last,
      ((start (.ofUnits (if · = preferred then 0 else 1) [] [some faulty, some waiting] none)
        resources).play conducts (List.replicate 6 0)).Path trace last ∧
      Session.Heeded trace ∧
      ∃ poller ∈ last.pollers, poller.exit? = some (.error (.standard "boom")) ∧
        poller.withdrawn = [faulty] ∧ poller.executed = [] ∧ poller.dropped = [] := by
  intro faulty waiting conducts resources preferred hpreferred
  let answer := Session.obligingWorld (E := .callbook) (fun _ _ => false) fun _ => ()
  let session (preferred : TestUnit) : Work .callbook Crew :=
    (start (.ofUnits (if · = preferred then 0 else 1) [] [some faulty, some waiting] none)
      resources).play conducts (List.replicate 6 0)
  let course (preferred : TestUnit) := (session preferred).converse answer
  have hplay : (session preferred).Path (course preferred).1 (course preferred).2 :=
    Session.path_converse answer _
  have hheeded : Session.Heeded (course preferred).1 :=
    (Session.calm_converse_obligingWorld _ _ _).heeded
  have hstopped : ∀ preferred ∈ [faulty, waiting], ∃ poller ∈ (course preferred).2.pollers,
      poller.exit? = some (.error (.standard "boom")) ∧
        poller.withdrawn = [faulty] ∧ poller.executed = [] ∧ poller.dropped = [] := by
    decide +kernel
  exact ⟨_, _, hplay, hheeded, hstopped preferred hpreferred⟩

end Crew

end Fleet
