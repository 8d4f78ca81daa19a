import Fleet.Proofs.Crew.Fates
import Fleet.Proofs.Invocation.Play

/-!
# What becomes of the units of an invocation

However the pollers of an invocation interleave, when all seats are closed the pool is empty and
each unit of the invocation has met one fate: one poller ran it, or one poller dropped it, or the
last one out reported that it never ran.
-/

namespace Fleet

variable {E : Interface} {conducts : Conducts E} {trace : List (Session.Exchange (World E))}
  {plan : InvocationPlan} {context : Context} {units : List (Option TestUnit)}
  {schedule : List Nat} {last : Invocation}

namespace InvocationPlan

/-- The seats are set up with open seats for new pollers. -/
theorem mem_seats {seat : Seat} (h : seat ∈ plan.seats context) :
    seat.poller = .ofResources seat.poller.resources ∧ seat.closed = false := by
  obtain ⟨⟨device, build⟩, -, hseat⟩ := List.mem_filterMap.mp h
  obtain ⟨device, -, rfl⟩ := Option.map_eq_some_iff.mp hseat
  exact ⟨rfl, rfl⟩

/-- A seat starts with an empty buffer, and its poller with the collectors of the plan. -/
theorem wiring_of_mem_seats {seat : Seat} (h : seat ∈ plan.seats context) :
    seat.buffer = {} ∧ seat.poller.resources.collectors = plan.collectors := by
  obtain ⟨⟨device, build⟩, -, hseat⟩ := List.mem_filterMap.mp h
  obtain ⟨device, -, rfl⟩ := Option.map_eq_some_iff.mp hseat
  exact ⟨rfl, rfl⟩

/-- Every device gets a seat. -/
theorem length_seats (hpresent : ∀ entry ∈ context.allocation, entry.1.isSome = true) :
    (plan.seats context).length = context.allocation.length := by
  rw [seats, List.length_filterMap_eq_countP, List.countP_eq_length]
  intro entry hentry
  rw [Option.isSome_map]
  exact hpresent entry hentry

/-- The resources of the pollers of an invocation. -/
def resources (plan : InvocationPlan) (context : Context) : List Resources :=
  (plan.seats context).map (·.poller.resources)

/-- The crew of an invocation before the first step. -/
def crew (plan : InvocationPlan) (context : Context) (units : List (Option TestUnit)) : Crew :=
  .start (plan.start context units).floor.pool (plan.resources context)

/-- Each seat has the poller of its resources. -/
theorem pollers_seats :
    (plan.seats context).map (·.poller) = (plan.resources context).map .ofResources := by
  rw [resources, List.map_map]
  exact List.map_congr_left fun seat hseat => (mem_seats hseat).1

/-- An invocation starts as its crew does. -/
theorem mirrors_start (hpresent : ∀ entry ∈ context.allocation, entry.1.isSome = true) :
    (plan.start context units).Mirrors (plan.crew context units) where
  floor := by
    rw [crew, Crew.start, resources, List.length_map, length_seats hpresent]
    rfl
  pollers := pollers_seats.symm

/-- An invocation starts with a well-formed pool. -/
theorem wellFormed_start : (plan.start context units).floor.pool.WellFormed :=
  WorkPool.wellFormed_ofUnits

/-- The crew of an invocation starts with its tally right. -/
theorem tallied_crew (hdevices : context.allocation ≠ [])
    (hpresent : ∀ entry ∈ context.allocation, entry.1.isSome = true) :
    (plan.crew context units).Tallied (plan.resources context).length := by
  refine Crew.tallied_start wellFormed_start (List.ne_nil_of_length_pos ?_)
  rw [resources, List.length_map, length_seats hpresent]
  exact List.length_pos_iff.mpr hdevices

/-- The pool of an invocation starts with the units it is given. -/
theorem mem_units_start {unit : TestUnit} :
    unit ∈ (plan.start context units).floor.pool.units ↔ some unit ∈ units := by
  have hpool : unit ∈ (plan.start context units).floor.pool.units ↔ _ :=
    WorkPool.mem_units_ofUnits
  rw [hpool]
  simp only [List.mem_filter, Option.any_some, Bool.not_eq_true']
  cases unit.tokens.isEmpty <;> simp

end InvocationPlan

namespace Invocation

/-- Nothing is left in the pool, and each unit has met one fate, which is all that was heard of it.
What was complained about is what could not be reported. -/
structure Settled (conducts : Conducts E) (units : List (Option TestUnit))
    (trace : List (Session.Exchange (World E))) (invocation : Invocation) : Prop where
  pool : invocation.floor.pool.units = []
  fates : ∀ unit, some unit ∈ units → ∃ (fate : Fate) (index : Nat),
    fate.Befalls conducts (invocation.seats.map (·.poller)) unit index ∧
    ∀ announced, (∀ other, some other ∈ units → (conducts other).Announces announced other) →
      fate.Shows ((Session.errands trace).filterMap announced) unit
  complaints : (Session.complaints trace).Perm
    (invocation.seats.flatMap fun seat => seat.poller.complaints)

/-- What is settled is a matter of errands, complaints and calmness. -/
theorem Settled.of_alike {inner : List (Session.Exchange (World E))}
    (h : last.Settled conducts units inner) (halike : Session.Alike trace inner) :
    last.Settled conducts units trace := by
  obtain ⟨hpool, hfates, hcomplaints⟩ := h
  rw [halike.errands] at hfates
  rw [halike.complaints] at hcomplaints
  exact ⟨hpool, hfates, hcomplaints⟩

/-- When all seats are closed, all pollers have left. -/
theorem Mirrors.allLeft {crew : Crew} (h : last.Mirrors crew) (hover : last.Over)
    (hclosed : last.ClosedLast) : crew.AllLeft := by
  intro poller hpoller
  rw [h.pollers] at hpoller
  obtain ⟨seat, hseat, rfl⟩ := List.mem_map.mp hpoller
  exact hclosed seat hseat (hover seat hseat)

/-- The fates of the units in a crew are those in the invocation it mirrors. -/
theorem Mirrors.settled {crew : Crew} {given : List TestUnit} {count : Nat}
    (h : last.Mirrors crew) (hfated : crew.Fated conducts given trace)
    (htallied : crew.Tallied count) (hleft : crew.AllLeft) (hnodup : given.Nodup)
    (hgiven : ∀ unit, unit ∈ given ↔ some unit ∈ units) : last.Settled conducts units trace := by
  have hpool := hfated.units_eq_nil htallied hleft
  refine ⟨h.floor ▸ hpool, ?_, List.perm_iff_count.mpr ?_⟩
  · intro unit hunit
    obtain ⟨fate, index, hbefalls, hshows⟩ :=
      hfated.befalls hleft hpool hnodup ((hgiven unit).mpr hunit)
    refine ⟨fate, index, h.pollers ▸ hbefalls, ?_⟩
    intro announced hannounces
    exact hshows announced fun other hother => hannounces other ((hgiven other).mp hother)
  · intro message
    rw [hfated.complaints, Crew.tally, Crew.total, h.pollers, List.map_map, List.count_flatMap]
    rfl

/-- No seat is closed before the first step. -/
theorem closedLast_start : (plan.start context units).ClosedLast := by
  intro seat hseat hclosed
  rw [(InvocationPlan.mem_seats hseat).2] at hclosed
  cases hclosed

/-- In a calm play with tame units, all units are settled when all seats are closed. -/
theorem settled_of_over (hdevices : context.allocation ≠ [])
    (hpresent : ∀ entry ∈ context.allocation, entry.1.isSome = true)
    (htame : ∀ unit, some unit ∈ units → (conducts unit).Tame)
    (hplay : ((plan.start context units).play conducts schedule).Path trace last)
    (hcalm : Session.Calm trace) (hover : last.Over) : last.Settled conducts units trace := by
  obtain ⟨inner, crew, hcrew, hmirrors, hconveys⟩ :=
    (InvocationPlan.mirrors_start hpresent).play hplay
  have hstart : (plan.crew context units).Tallied (plan.resources context).length :=
    InvocationPlan.tallied_crew hdevices hpresent
  have hfated : crew.Fated conducts (plan.start context units).floor.pool.units inner :=
    Crew.fated_start.play hstart
      (fun unit hunit => htame unit (InvocationPlan.mem_units_start.mp hunit)) hcrew
      (hconveys.alike.calm hcalm)
  have hclosed : last.ClosedLast := closedLast_start.play hplay
  exact (hmirrors.settled hfated (hstart.play hcrew) (hmirrors.allLeft hover hclosed)
    InvocationPlan.wellFormed_start.units_nodup
    fun unit => InvocationPlan.mem_units_start).of_alike hconveys.alike

private theorem waiting_start (index : Nat) : (plan.start context units).waiting index ≤
    if index < context.allocation.length then
      8 * (plan.start context units).floor.pool.size + 6
    else 0 := by
  unfold waiting
  split
  · exact Nat.zero_le _
  · rename_i seat hseat
    obtain ⟨hpoller, hopen⟩ := InvocationPlan.mem_seats (List.mem_of_getElem? hseat)
    have hindex : index < (plan.seats context).length := (List.getElem?_eq_some_iff.mp hseat).1
    have hdevice : index < context.allocation.length :=
      Nat.lt_of_lt_of_le hindex (List.length_filterMap_le _ _)
    rw [Seat.waiting, hopen, if_neg Bool.false_ne_true, if_pos hdevice, hpoller]
    exact Nat.le_of_eq (congrArg (· + 1) (Station.outstanding_of_ne (Nat.succ_ne_zero 4)))

/-- Given enough turns, every seat is closed. -/
theorem over_of_fair
    (hplay : ((plan.start context units).play conducts schedule).Path trace last)
    (hfair : ∀ index < context.allocation.length,
      8 * (plan.start context units).floor.pool.size + 6 ≤ schedule.count index) : last.Over := by
  apply over_of_waiting
  intro index _
  have hlast := (waiting_play InvocationPlan.wellFormed_start hplay index).2
  have hstart : (plan.start context units).waiting index ≤ _ := waiting_start index
  split at hstart
  · have hshare := hfair index ‹_›
    omega
  · omega

/-- Whole invocations, one fate per unit. The pollers of the allocated devices take their steps in
any order; the listeners, setters and collectors throw nothing, the options, checks and reports of
the units neither, and their runs do what they like short of throwing what is no standard exception.
Given enough turns, every seat is closed. Then nothing is left in the pool, and each unit was run
once by one poller, or dropped once by one poller because its options do not pass, or never
withdrawn and reported once or, if it cannot report, logged once by the last poller out. -/
theorem one_fate_whatever_schedule (hdevices : context.allocation ≠ [])
    (hpresent : ∀ entry ∈ context.allocation, entry.1.isSome = true)
    (htame : ∀ unit, some unit ∈ units → (conducts unit).Tame)
    (hplay : ((plan.start context units).play conducts schedule).Path trace last)
    (hcalm : Session.Calm trace) :
    ((∀ index < context.allocation.length,
        8 * (plan.start context units).floor.pool.size + 6 ≤ schedule.count index) → last.Over) ∧
    (last.Over → last.Settled conducts units trace) := by
  exact ⟨over_of_fair hplay, settled_of_over hdevices hpresent htame hplay hcalm⟩

/-- Two devices; one unit is run and throws, one is dropped, and nobody holds the tokens of the
others. -/
theorem one_fate_two_devices :
    let plan : InvocationPlan := { registry := none, recovery := none }
    let context : Context :=
      { allocated := [("a", some ⟨"one", .physical⟩), ("b", some ⟨"two", .physical⟩)] }
    let needy : UnitOption := { name := "mode", value := none, mandatory := true, check := none }
    let plain := TestUnit.plain 0 "a" []
    let dropped := TestUnit.plain 1 "b" []
    let mute := TestUnit.plain 2 "c" ["sim"]
    let reporting : TestUnit :=
      { TestUnit.plain 3 "d" ["sim"] with capabilities := { notExecutedReport := true } }
    let units := [some plain, none, some dropped, some plain, some mute, some reporting]
    let conducts : Conducts .callbook := fun unit =>
      .announcing (if unit = dropped then [needy] else []) (.error (.standard "boom")) unit
    let schedule := (List.replicate 38 [0, 1]).flatten
    ∃ trace, ∃ last : Invocation,
      context.allocation ≠ [] ∧ (∀ entry ∈ context.allocation, entry.1.isSome = true) ∧
      (∀ unit, some unit ∈ units → (conducts unit).Tame) ∧
      (∀ unit, (conducts unit).Announces some unit) ∧
      ((plan.start context units).play conducts schedule).Path trace last ∧
      Session.Calm trace ∧ last.Over ∧ last.Settled conducts units trace := by
  intro plan context needy plain dropped mute reporting units conducts schedule
  let session : Work .callbook Invocation := (plan.start context units).play conducts schedule
  let answer := Session.obligingWorld (E := .callbook) (fun _ _ => false) fun _ => ()
  let course := session.converse answer
  have htame : ∀ unit, some unit ∈ units → (conducts unit).Tame := by
    refine fun unit _ => Conduct.tame_announcing (fun option hoption check hcheck => ?_) nofun
    split at hoption
    · obtain rfl := List.mem_singleton.mp hoption
      cases hcheck
    · cases hoption
  have hdevices : context.allocation ≠ [] := by decide
  have hpresent : ∀ entry ∈ context.allocation, entry.1.isSome = true := by decide
  have hplay : session.Path course.1 course.2 := Session.path_converse answer session
  have hcalm : Session.Calm course.1 := Session.calm_converse_obligingWorld _ _ session
  obtain ⟨hfair, hsettled⟩ :=
    one_fate_whatever_schedule hdevices hpresent htame hplay hcalm
  have hover : course.2.Over := hfair (by decide)
  exact ⟨course.1, course.2, hdevices, hpresent, htame, fun _ => Conduct.announces_announcing,
    hplay, hcalm, hover, hsettled hover⟩

end Invocation

end Fleet
