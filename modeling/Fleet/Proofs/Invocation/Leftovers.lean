import Fleet.Proofs.Crew.Exhaustion
import Fleet.Proofs.Invocation.Run

/-!
# What draining pollers leave behind

A poller that ends because the pool has nothing more for its device leaves nothing behind that the
device could have run: no generic unit is reported as never run, and each gated unit that is
reported was on record as turned down by the device while it was in the pool.
-/

namespace Fleet

variable {E : Interface} {conducts : Conducts E} {trace : List (Session.Exchange (World E))}
  {plan : InvocationPlan} {context : Context} {units : List (Option TestUnit)}
  {schedule : List Nat}

/-- The poller of the seat has left because nothing more was left for its device. -/
def Seat.Drained (seat : Seat) : Prop :=
  seat.poller.exit? = some (.ok (.ok ()))

instance (seat : Seat) : Decidable seat.Drained :=
  inferInstanceAs (Decidable (_ = _))

/-- A poller that has found its pool drained leaves with success. -/
theorem Seat.Drained.decided {seat : Seat} (h : seat.Drained) :
    seat.poller.phase.decided? = some (.ok (.ok ())) := by
  rw [Poller.exit?_eq_some.mp h]
  rfl

namespace Invocation

variable {invocation first last : Invocation}

/-- The units the pollers of an invocation reported as never run. -/
def reported (invocation : Invocation) : List TestUnit :=
  invocation.seats.flatMap (·.poller.reported)

/-- A play from the first state of an invocation to the last one passes through the one in
between. -/
def PassesThrough (conducts : Conducts E) (schedule : List Nat)
    (trace : List (Session.Exchange (World E))) (first mid last : Invocation) : Prop :=
  ∃ earlier later before after, schedule = earlier ++ later ∧ trace = before ++ after ∧
    (first.play conducts earlier).Path before mid ∧ (mid.play conducts later).Path after last

/-- The pollers of an invocation as a crew. -/
def crew (invocation : Invocation) : Crew where
  floor := invocation.floor
  pollers := invocation.seats.map (·.poller)

/-- An invocation mirrors its own crew. -/
theorem mirrors_crew : invocation.Mirrors invocation.crew :=
  ⟨rfl, rfl⟩

/-- An invocation and the crew it mirrors have reported the same units. -/
theorem Mirrors.reported_eq {crew : Crew} (h : invocation.Mirrors crew) :
    crew.reported = invocation.reported := by
  rw [Crew.reported, h.pollers, List.flatMap_map]
  rfl

/-- At the start, what the phases say about the pool is true. -/
theorem aware_start :
    (plan.start context units).crew.Aware (plan.start context units).floor.pool := by
  have hnew : ∀ poller ∈ (plan.start context units).crew.pollers,
      ∃ resources, poller = .ofResources resources := by
    intro poller hpoller
    obtain ⟨seat, hseat, rfl⟩ := List.mem_map.mp hpoller
    exact ⟨_, (InvocationPlan.mem_seats hseat).1⟩
  refine ⟨InvocationPlan.wellFormed_start, List.Subset.refl _, ?_, ?_, ?_⟩
  · intro poller hpoller
    obtain ⟨resources, rfl⟩ := hnew poller hpoller
    exact Poller.informed_ofResources
  · have hseats : (plan.seats context).length ≤ context.allocation.length :=
      List.length_filterMap_le _ _
    have htotal : (plan.start context units).crew.total (·.phase.counted) =
        (plan.seats context).length := by
      have hpollers : (plan.start context units).crew.pollers =
          (plan.resources context).map .ofResources := InvocationPlan.pollers_seats
      have hcrew := @Crew.total_counted_start (plan.start context units).floor.pool
        (plan.resources context)
      rw [Crew.total, hpollers]
      exact hcrew.trans (List.length_map _)
    rw [htotal]
    exact Int.ofNat_le.mpr hseats
  · intro poller hpoller exit hreporting
    obtain ⟨resources, rfl⟩ := hnew poller hpoller
    cases hreporting

/-- Gated units require tokens. -/
theorem requires_of_mem_gated {unit : TestUnit}
    (h : unit ∈ (plan.start context units).floor.pool.gated) : unit.tokens.isEmpty = false := by
  obtain ⟨-, hgated⟩ := WorkPool.mem_gated_ofUnits.mp h
  simpa using (List.mem_filter.mp hgated).2

/-- When a unit is reported, it is a gated one, and every device whose poller drains the pool in the
play is on record as having turned it down. -/
theorem turned_down_of_reported
    (hplay : ((plan.start context units).play conducts schedule).Path trace last)
    (hdrained : ∃ seat ∈ last.seats, seat.Drained) {unit : TestUnit}
    (hunit : unit ∈ last.reported) :
    unit.tokens.isEmpty = false ∧ ∃ mid,
      PassesThrough conducts schedule trace (plan.start context units) mid last ∧
      unit ∈ mid.floor.pool.gated ∧ ∀ seat ∈ last.seats, seat.Drained →
        (mid.floor.pool.rejectedBy unit).contains seat.poller.resources.device.serial := by
  have hfirst : unit ∉ (plan.start context units).reported := by
    intro hreported
    obtain ⟨seat, hseat, hmem⟩ := List.mem_flatMap.mp hreported
    rw [(InvocationPlan.mem_seats hseat).1] at hmem
    cases hmem
  obtain ⟨earlier, index, later, before, during, after, mid, next, rfl, rfl, hearlier, hstep,
    hlater, hmid, hnext⟩ := Session.turning_point_follow (unit ∈ ·.reported) hfirst hunit
      (play_eq_follow ▸ hplay)
  rw [← play_eq_follow] at hearlier hlater
  -- The crew when the unit was reported, and what it has come to since.
  obtain ⟨_, crew, hcrew, hmirrors, -⟩ := mirrors_crew.play hearlier
  have haware := aware_start.play hcrew
  obtain ⟨_, reporting, hreporting, hreportingMirrors, -⟩ := hmirrors.step hstep
  obtain ⟨_, final, hfinal, hfinalMirrors, -⟩ := hreportingMirrors.play hlater
  have hnew : unit ∉ crew.reported ∧ unit ∈ reporting.reported :=
    ⟨hmirrors.reported_eq ▸ hmid, hreportingMirrors.reported_eq ▸ hnext⟩
  have hexhausted : ∀ seat ∈ last.seats, seat.Drained →
      crew.floor.pool.Exhausted seat.poller.resources.device.serial := by
    intro seat hseat hleft
    refine haware.exhausted_of_reported hreporting hfinal hnew ?_ hleft.decided
    exact hfinalMirrors.pollers ▸ List.mem_map_of_mem hseat
  have hgated : unit ∈ crew.floor.pool.gated := by
    obtain ⟨seat, hseat, hleft⟩ := hdrained
    have hpool := (haware.decided_of_reported hreporting hnew).1
    rwa [WorkPool.units, (hexhausted seat hseat hleft).generic] at hpool
  rw [hmirrors.floor] at hexhausted
  refine ⟨requires_of_mem_gated (haware.gated hgated), mid, ?_, hmirrors.floor ▸ hgated, ?_⟩
  · exact ⟨earlier, index :: later, before, during ++ after, rfl, rfl, hearlier,
      Session.path_seq.mpr ⟨next, _, _, rfl, hstep, hlater⟩⟩
  · intro seat hseat hleft
    exact (hexhausted seat hseat hleft).turnedDown unit (hmirrors.floor ▸ hgated)

/-- Once a device has polled in vain, it polls in vain for ever, whatever calls are made and
whatever the token providers say by then. So if a poller of an invocation drains the pool, in any
order of steps and whichever devices are lost, no generic unit is reported as never run, and each
unit that is reported was turned down before by every device whose poller drained the pool. -/
theorem draining_leaves_nothing_runnable :
    (∀ (rank : TestUnit → Nat) (generic gated : List (Option TestUnit))
        (registry : Option TokenRegistry)
        (earlier between later meanwhile : List WorkPool.Call) (device other : Device)
        (taken returned : List TestUnit) (found : Option TestUnit) (pool mid last rest : WorkPool)
        (past polled since again : List (Session.Exchange (World E))),
      (WorkPool.answerAll earlier (.ofUnits rank generic gated registry)).Path past (taken, pool) →
      (pool.pollAround device between).Path polled (none, mid) →
      (WorkPool.answerAll later mid).Path since (returned, last) →
      other.serial = device.serial →
      (last.pollAround other meanwhile).Path again (found, rest) → found = none) ∧
    ∀ (plan : InvocationPlan) (context : Context) (units : List (Option TestUnit))
        (conducts : Conducts E) (schedule : List Nat) (trace : List (Session.Exchange (World E)))
        (last : Invocation),
      ((plan.start context units).play conducts schedule).Path trace last →
      (∃ seat ∈ last.seats, seat.Drained) →
      ∀ unit ∈ last.reported, unit.tokens.isEmpty = false ∧ ∃ mid,
        PassesThrough conducts schedule trace (plan.start context units) mid last ∧
        unit ∈ mid.floor.pool.gated ∧ ∀ seat ∈ last.seats, seat.Drained →
          (mid.floor.pool.rejectedBy unit).contains seat.poller.resources.device.serial := by
  constructor
  · intro rank generic gated registry earlier between later meanwhile device other taken returned
      found pool mid last rest past polled since again hpast hpolled hsince hserial hagain
    exact WorkPool.found_of_poll_again hpast hpolled hsince hserial hagain
  · intro plan context units conducts schedule trace last hplay hdrained unit hunit
    exact turned_down_of_reported hplay hdrained hunit

/-- A device that a provider has refused gets nothing after the provider has changed its mind. Of
two devices one is lost with the only generic unit, the other one drains the pool, and the gated
unit that is reported was turned down by it. -/
theorem draining_leaves_nothing_runnable_two_devices :
    let registry := TokenRegistry.register {} "sim" (some (.external 0))
    let one : Device := ⟨"one", .physical⟩
    let failing := TestUnit.plain 0 "a" []
    let gated := TestUnit.plain 1 "b" ["sim"]
    let plan : InvocationPlan := { registry := none, recovery := none }
    let context : Context := { allocated := [("a", some one), ("b", some ⟨"two", .physical⟩)] }
    let units := [some failing, some gated]
    let conducts : Conducts .callbook :=
      .announcing [] (.ok (.error (.deviceNotAvailable "gone" "one")))
    let schedule := (List.replicate 12 [0, 1]).flatten
    (∃ (polled again : List (Session.Exchange (World .callbook))) (mid last : WorkPool),
      (WorkPool.pollAround one [.pollGeneric]
        (.ofUnits WorkPool.asGiven [some failing] [some gated] (some registry))).Path polled
          (none, mid) ∧
      mid.gated = [gated] ∧ (mid.pollAround one []).Path again (none, last)) ∧
    ∃ (trace : List (Session.Exchange (World .callbook))) (last : Invocation),
      ((plan.start context units).play conducts schedule).Path trace last ∧
      (∃ seat ∈ last.seats, seat.error.isSome = true) ∧ (∃ seat ∈ last.seats, seat.Drained) ∧
      last.reported = [gated] ∧ ∃ mid,
        PassesThrough conducts schedule trace (plan.start context units) mid last ∧
        gated ∈ mid.floor.pool.gated ∧ ∀ seat ∈ last.seats, seat.Drained →
          (mid.floor.pool.rejectedBy gated).contains seat.poller.resources.device.serial := by
  intro registry one failing gated plan context units conducts schedule
  obtain ⟨hpoll, hrun⟩ := draining_leaves_nothing_runnable (E := .callbook)
  constructor
  · let refusing := Session.obligingWorld (E := .callbook) (fun _ _ => false) fun _ => ()
    let granting := Session.obligingWorld (E := .callbook) (fun _ _ => true) fun _ => ()
    let filled : WorkPool := .ofUnits WorkPool.asGiven [some failing] [some gated] (some registry)
    let polling : Work .callbook (Option TestUnit × WorkPool) :=
      filled.pollAround one [.pollGeneric]
    let polled := polling.converse refusing
    have hnone : polled.2 = (none, polled.2.2) := Prod.ext (by decide) rfl
    have hpolled : polling.Path polled.1 (none, polled.2.2) :=
      hnone ▸ Session.path_converse refusing polling
    obtain ⟨again, ⟨found, last⟩, hagain⟩ :
        ∃ again answer, (polled.2.2.pollAround one [] : Work .callbook _).Path again answer :=
      ⟨_, _, Session.path_converse granting _⟩
    have huncalled : ∀ pool : WorkPool,
        (WorkPool.answerAll [] pool : Work .callbook _).Path [] ([], pool) :=
      fun _ => Session.path_pure.mpr ⟨rfl, rfl⟩
    obtain rfl : found = none :=
      hpoll WorkPool.asGiven [some failing] [some gated] (some registry) [] [.pollGeneric] [] [] one
        one [] [] found filled polled.2.2 polled.2.2 last [] polled.1 [] again (huncalled filled)
        hpolled (huncalled polled.2.2) rfl hagain
    exact ⟨polled.1, again, polled.2.2, last, hpolled, by decide, hagain⟩
  · let answer := Session.obligingWorld (E := .callbook) (fun _ _ => false) fun _ => ()
    let session : Work .callbook Invocation := (plan.start context units).play conducts schedule
    let course := session.converse answer
    have hplay : session.Path course.1 course.2 := Session.path_converse answer session
    have hlost : ∃ seat ∈ course.2.seats, seat.error.isSome = true := by decide +kernel
    have hdrained : ∃ seat ∈ course.2.seats, seat.Drained := by decide +kernel
    have hreported : course.2.reported = [gated] := by decide +kernel
    have hmem : gated ∈ course.2.reported := hreported ▸ List.mem_cons_self
    exact ⟨course.1, course.2, hplay, hlost, hdrained, hreported,
      (hrun _ _ _ _ _ _ _ hplay hdrained gated hmem).2⟩

end Invocation

end Fleet
