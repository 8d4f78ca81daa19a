import Fleet.Proofs.Crew.Career
import Fleet.Proofs.Crew.Containment
import Fleet.Proofs.Poller.Asking

/-!
# Lost devices

Whenever a run of a unit ends because its device is lost, the poller makes one record of it: that it
goes on, or that it gives up. It tries to bring the device back only while others are running, a
physical device by waiting for it and then rebooting it, a virtual one by a reset. If it gives up,
it withdraws no more units and leaves with the error of the unit, and nothing more is recorded.
-/

namespace Fleet

variable {E : Interface}

/-- The loss that a poller in this phase is about to deal with. -/
def Phase.loss? : Phase → Option (TestUnit × TaskError)
  | .recovering unit error => some (unit, error)
  | _ => none

private theorem Phase.loss?_of_decided {phase : Phase} {exit : Exit}
    (h : phase.decided? = some exit) :
    phase.loss? = none := by
  cases phase <;> first | rfl | cases h

/-- The loss that a run of a unit ends with. -/
def TestUnit.loss? (unit : TestUnit) : Except Thrown Outcome → Option (TestUnit × TaskError)
  | .ok (.error error) => if error.isDeviceLoss then some (unit, error) else none
  | _ => none

private theorem TestUnit.loss?_contain {unit : TestUnit} {serial : String}
    {attempted : Except Thrown Outcome} :
    unit.loss? (Poller.contain unit serial attempted) = unit.loss? attempted := by
  rcases attempted with (what | _) | outcome <;> rfl

private theorem Phase.loss?_afterRun {unit : TestUnit} {ran : Except Thrown Outcome} :
    (afterRun true unit ran).loss? = unit.loss? ran := by
  rcases ran with thrown | (error | ⟨⟨⟩⟩)
  · rfl
  · rw [afterRun, TestUnit.loss?]
    split <;> rfl
  · rfl

/-- If losses are dealt with, no run of a unit makes a poller leave with an error. -/
theorem Phase.decided?_afterRun_ne {unit : TestUnit} {ran : Except Thrown Outcome}
    (error : TaskError) : (afterRun true unit ran).decided? ≠ some (.ok (.error error)) := by
  rcases ran with thrown | (failure | ⟨⟨⟩⟩)
  · simp [afterRun, decided?]
  · rw [afterRun]
    split <;> simp [decided?]
  · simp [afterRun, decided?]

namespace Stint

/-- The loss with which the run of a unit ends in a step. -/
def lost? (stint : Stint E) : Option (TestUnit × TaskError) :=
  match stint.before.poller.phase with
  | .executing _ => stint.after.poller.phase.loss?
  | _ => none

/-- Whether a loss is dealt with in a step. -/
def recovers (stint : Stint E) : Bool :=
  stint.before.poller.phase.loss?.isSome

/-- The unit is executed in this step, which ends with a loss if the execution does. If no listener
throws, that is if the run of the unit does. -/
def Executes (conducts : Conducts E) (resources : Resources) (unit : TestUnit) (stint : Stint E) :
    Prop :=
  ∃ run ran network, run <+: stint.said ∧
    (Poller.execute (conducts unit) resources stint.before.poller.entry unit).Ends
      stint.before.poller.network run ran network ∧
    stint.lost? = unit.loss? ran ∧
    (Session.Heeded run → ∃ attempted,
      Poller.Attempts (conducts unit) resources unit run attempted ∧
        stint.lost? = unit.loss? attempted)

end Stint

/-- A lost device, and what was done about it. -/
structure Loss (E : Interface) where
  /-- The unit whose run ended because of the loss, and the error it ended with. -/
  unit : TestUnit
  error : TaskError
  /-- The step in which it was dealt with. -/
  stint : Stint E
  /-- The calls made to bring the device back. -/
  calls : List (Session.Exchange (World E))
  /-- Whether it came back. -/
  back : Bool

namespace Loss

/-- What was done to look after the device. -/
def care (device : Device) (loss : Loss E) : List (Session.Exchange (World E)) :=
  loss.calls ++ [RecoveryPolicy.entry device loss.error loss.back]

/-- The loss was dealt with as it should be: the device was treated as the number of running pollers
demands, one record was made, and the poller goes on or leaves with the error of the unit. -/
structure Handled (policy : RecoveryPolicy) (device : Device) (loss : Loss E) : Prop where
  phase : loss.stint.before.poller.phase = .recovering loss.unit loss.error
  treated : policy.Treats device loss.stint.before.floor.running loss.calls loss.back
  care : Session.care loss.stint.said = loss.care device
  next : loss.stint.after.poller.phase =
    if loss.back then .seekingGated else .leaving (.ok (.error loss.error))

end Loss

namespace Station

variable {conducts : Conducts E} {first mid last : Station} {unit : TestUnit} {error : TaskError}
  {policy : RecoveryPolicy} {said : List (Session.Exchange (World E))}
  {result : Except Thrown Phase}

/-- The recovery of a device is what its policy says. -/
theorem treats_recover (hpolicy : first.poller.resources.recovery = some policy)
    (h : (recover unit error).Ends first said result last) :
    ∃ calls back, Session.care said =
        calls ++ [RecoveryPolicy.entry first.poller.resources.device error back] ∧
      policy.Treats first.poller.resources.device first.floor.running calls back ∧
      nextPhase result = if back then .seekingGated else .leaving (.ok (.error error)) := by
  rw [recover, Flow.ends_get_bind] at h
  simp only [hpolicy] at h
  rcases Flow.ends_bind.mp h with
    ⟨thrown, hthrown, -⟩ | ⟨outcome, _, after, _, rfl, hhandled, hrest⟩
  · obtain ⟨_, -, hnot, -⟩ := Flow.ends_work.mp hthrown
    cases hnot
  obtain ⟨_, hpath, hanswer, rfl⟩ := Flow.ends_work.mp hhandled
  obtain rfl := Except.ok.inj hanswer
  obtain ⟨calls, back, hcare, htreats, rfl⟩ := RecoveryPolicy.treats_handleLoss hpath
  obtain ⟨hquiet, hnext⟩ : Session.care after = [] ∧
      nextPhase result = if back then .seekingGated else .leaving (.ok (.error error)) := by
    cases back with
    | true => exact ⟨ordinary_proceed.uncaring.care hrest, by rw [(settles_proceed hrest).1]; rfl⟩
    | false =>
      exact ⟨ordinary_terminate.uncaring.care hrest, by rw [(settles_terminate hrest).1]; rfl⟩
  exact ⟨calls, back, by rw [Session.care_append, hcare, hquiet, List.append_nil], htreats, hnext⟩

/-- Nothing is done about a device in a step that does not recover it. -/
theorem care_of_step (h : (first.step conducts).Path said last)
    (hnot : first.poller.phase.loss? = none) : Session.care said = [] := by
  obtain ⟨result, mid, hact, -⟩ := ends_of_step h
  refine (uncaring_act ?_).care hact
  intro unit error hphase
  rw [hphase] at hnot
  cases hnot

/-- A poller with a policy that has not decided how it leaves, and is not about to deal with a loss,
comes to deal with one only when the run of a unit ends in it, and does not decide to leave with an
error. -/
theorem goesOn_of_step (hformed : first.floor.pool.WellFormed)
    (h : (first.step conducts).Path said last)
    (hrecovers : first.poller.resources.recovery.isSome = true)
    (hundecided : first.poller.phase.decided? = none) (hnot : first.poller.phase.loss? = none) :
    last.poller.phase.loss? = Stint.lost? ⟨first, said, last⟩ ∧
      ∀ error, last.poller.phase.decided? ≠ some (.ok (.error error)) := by
  obtain ⟨result, mid, hact, hphase⟩ := phase_of_step h
  unfold Stint.lost?
  dsimp only
  cases hbefore : first.poller.phase with
  | wiringCollectors =>
    rw [hbefore] at hact
    obtain ⟨-, rfl | ⟨thrown, rfl⟩⟩ := backstage_wireCollectors hact
    all_goals
      rw [hphase]
      exact ⟨rfl, nofun⟩
  | seekingGated =>
    rw [hbefore] at hact
    obtain ⟨found, pool, -, -, -, rfl, -⟩ := ends_seekGated hformed hact
    rw [hphase]
    cases found <;> exact ⟨rfl, nofun⟩
  | seekingGeneric =>
    rw [hbefore] at hact
    obtain ⟨found, pool, -, -, -, rfl, -⟩ := ends_seekGeneric hformed hact
    rw [hphase]
    cases found <;> exact ⟨rfl, nofun⟩
  | dispatching unit =>
    rw [hbefore] at hact
    obtain ⟨-, ⟨dependency, thrown, -, hnext⟩ | ⟨-, hnext⟩⟩ := ends_dispatch hact
    · rw [hphase, hnext]
      exact ⟨rfl, nofun⟩
    · rw [hphase, hnext]
      rcases (conducts unit).validate "validation" unit.name with thrown | (error | ⟨⟨⟩⟩) <;>
        exact ⟨rfl, nofun⟩
  | executing unit =>
    rw [hbefore] at hact
    obtain ⟨-, ran, _, _, _, -, -, -, hnext⟩ := ends_execute hact
    refine ⟨rfl, ?_⟩
    rw [hphase, hnext, hrecovers]
    exact Phase.decided?_afterRun_ne
  | recovering unit error =>
    rw [hbefore] at hnot
    cases hnot
  | leaving _ | reporting _ | left _ =>
    rw [hbefore] at hundecided
    cases hundecided

/-- In the step of a poller that is about to deal with a loss, the loss is handled as it should be,
and no unit is withdrawn. -/
theorem handled_of_step (hpolicy : first.poller.resources.recovery = some policy)
    (hformed : first.floor.pool.WellFormed) (h : (first.step conducts).Path said last)
    {pending : TestUnit × TaskError} (hloss : first.poller.phase.loss? = some pending) :
    ∃ loss : Loss E, loss.stint = ⟨first, said, last⟩ ∧
      loss.Handled policy first.poller.resources.device ∧
      last.poller.withdrawn = first.poller.withdrawn := by
  have hmove := move_of_step hformed h
  obtain ⟨result, mid, hact, hnext⟩ := phase_of_step h
  cases hphase : first.poller.phase with
  | recovering unit error =>
    rw [hphase] at hact
    obtain ⟨calls, back, hcare, htreats, hback⟩ := treats_recover hpolicy hact
    refine ⟨⟨unit, error, ⟨first, said, last⟩, calls, back⟩, rfl, ?_, ?_⟩
    · exact ⟨hphase, htreats, hcare, hnext.trans hback⟩
    · exact hmove.withdrawn_eq fun fallback hseeks => by rw [hphase] at hseeks; cases hseeks
  | _ =>
    rw [hphase] at hloss
    cases hloss

end Station

namespace Poller

variable {conducts : Conducts E} {poller last : Poller} {stints : List (Stint E)}
  {policy : RecoveryPolicy} {losses : List (Loss E)} {exit : Exit}

/-- What losses come to: either the device came back each time and the poller does not leave with an
error, or it did not the last time, and the poller leaves with that error and withdraws nothing any
more. -/
inductive Outlives (last : Poller) (exit : Exit) : List (Loss E) → Prop
  | all {losses : List (Loss E)} (hback : ∀ loss ∈ losses, loss.back = true)
      (hexit : ∀ error, exit ≠ .ok (.error error)) : Outlives last exit losses
  | allBut {losses : List (Loss E)} {lost : Loss E} (hback : ∀ loss ∈ losses, loss.back = true)
      (hlost : lost.back = false) (hexit : exit = .ok (.error lost.error))
      (hwithdrawn : last.withdrawn = lost.stint.before.poller.withdrawn) :
      Outlives last exit (losses ++ [lost])

private theorem Outlives.cons {loss : Loss E} (h : Outlives last exit losses)
    (hback : loss.back = true) : Outlives last exit (loss :: losses) := by
  cases h with
  | all hall hexit => exact .all (List.forall_mem_cons.mpr ⟨hback, hall⟩) hexit
  | allBut hall hlost hexit hwithdrawn =>
    rw [← List.cons_append]
    exact .allBut (List.forall_mem_cons.mpr ⟨hback, hall⟩) hlost hexit hwithdrawn

/-- These are the losses of a career: one for each run that ends because the device is lost, one
that is already pending counted, and one for each step that deals with a loss. Each is handled as it
should be, and nothing else is done to look after the device. -/
structure Polices (policy : RecoveryPolicy) (device : Device)
    (pending : Option (TestUnit × TaskError)) (stints : List (Stint E)) (losses : List (Loss E)) :
    Prop where
  lost : losses.map (fun loss => (loss.unit, loss.error)) =
    pending.toList ++ stints.filterMap Stint.lost?
  steps : losses.map Loss.stint = stints.filter Stint.recovers
  handled : ∀ loss ∈ losses, loss.Handled policy device
  care : Session.care (Stint.conversation stints) = losses.flatMap (Loss.care device)

namespace Polices

variable {device : Device} {stint : Stint E}

/-- A step that deals with no loss leaves a loss pending at most. -/
theorem cons_of_none (hquiet : Session.care stint.said = [])
    (hnot : stint.before.poller.phase.loss? = none)
    (h : Polices policy device stint.lost? stints losses) :
    Polices policy device none (stint :: stints) losses where
  lost := by
    rw [h.lost, List.filterMap_cons]
    cases stint.lost? <;> rfl
  steps := by
    rw [h.steps, List.filter_cons_of_neg (by simp [Stint.recovers, hnot])]
  handled := h.handled
  care := by
    rw [← h.care, Stint.conversation, List.flatMap_cons, Session.care_append, hquiet]
    rfl

/-- A step that deals with a loss deals with the one that is pending. -/
theorem cons_of_handled {loss : Loss E} (hhandled : loss.Handled policy device)
    (h : Polices policy device none stints losses) :
    Polices policy device (some (loss.unit, loss.error)) (loss.stint :: stints)
      (loss :: losses) where
  lost := by
    have hnot : loss.stint.lost? = none := by rw [Stint.lost?, hhandled.phase]
    rw [List.map_cons, h.lost, List.filterMap_cons_none hnot]
    rfl
  steps := by
    rw [List.map_cons, h.steps,
      List.filter_cons_of_pos (by simp [Stint.recovers, hhandled.phase, Phase.loss?])]
  handled := List.forall_mem_cons.mpr ⟨hhandled, h.handled⟩
  care := by
    rw [List.flatMap_cons, ← h.care, ← hhandled.care, Stint.conversation, List.flatMap_cons,
      Session.care_append]
    rfl

end Polices

/-- The losses of a career, whatever phase it starts in: a poller that has decided how it leaves has
none. -/
def Policed (policy : RecoveryPolicy) (poller : Poller) (stints : List (Stint E)) (last : Poller)
    (exit : Exit) : Prop :=
  ∃ losses, Polices policy poller.resources.device poller.phase.loss? stints losses ∧
    (∀ decided, poller.phase.decided? = some decided →
      losses = [] ∧ decided = exit ∧ last.withdrawn = poller.withdrawn) ∧
    (poller.phase.decided? = none → Outlives last exit losses)

section Steps

variable {before after : Station} {said : List (Session.Exchange (World E))}

/-- A poller that deals with a loss goes on or leaves, as its device comes back or not. -/
theorem Policed.handled {loss : Loss E}
    (h : Policed policy loss.stint.after.poller stints last exit)
    (hhandled : loss.Handled policy loss.stint.before.poller.resources.device)
    (hresources : loss.stint.after.poller.resources = loss.stint.before.poller.resources)
    (hwithdrawn : loss.stint.after.poller.withdrawn = loss.stint.before.poller.withdrawn) :
    Policed policy loss.stint.before.poller (loss.stint :: stints) last exit := by
  obtain ⟨losses, hpolices, hdecided, hundecided⟩ := h
  have hnext := hhandled.next
  rw [hresources] at hpolices
  rw [Policed, hhandled.phase]
  cases hback : loss.back with
  | true =>
    rw [hback, if_pos rfl] at hnext
    rw [hnext] at hpolices hundecided
    exact ⟨loss :: losses, .cons_of_handled hhandled hpolices, nofun,
      fun _ => (hundecided rfl).cons hback⟩
  | false =>
    rw [hback, if_neg (by decide)] at hnext
    rw [hnext] at hpolices hdecided
    obtain ⟨rfl, rfl, hspent⟩ := hdecided _ rfl
    refine ⟨[loss], .cons_of_handled hhandled hpolices, nofun, fun _ => ?_⟩
    rw [← List.nil_append [loss]]
    exact .allBut (List.forall_mem_nil _) hback rfl (hspent.trans hwithdrawn)

/-- A poller that has decided how it leaves has no more losses. -/
theorem Policed.decided (h : Policed policy after.poller stints last exit)
    (hformed : before.floor.pool.WellFormed) (hstep : (before.step conducts).Path said after)
    {decided : Exit} (hdecided : before.poller.phase.decided? = some decided) :
    Policed policy before.poller (⟨before, said, after⟩ :: stints) last exit := by
  have hmove := Station.move_of_step hformed hstep
  have hafter := hmove.decided hdecided
  have hnone := Phase.loss?_of_decided hdecided
  obtain ⟨losses, hpolices, hsettled, -⟩ := h
  obtain ⟨rfl, rfl, hspent⟩ := hsettled decided hafter
  have hlost : Stint.lost? ⟨before, said, after⟩ = none := by
    rw [Stint.lost?]
    split
    · exact Phase.loss?_of_decided hafter
    · rfl
  rw [Phase.loss?_of_decided hafter, ← hlost, hmove.resources_eq] at hpolices
  have hkept : after.poller.withdrawn = before.poller.withdrawn := by
    refine hmove.withdrawn_eq fun fallback hseeks => ?_
    rw [hseeks.counted.2.2] at hdecided
    cases hdecided
  refine ⟨[], ?_, ?_, fun hnot => ?_⟩
  · rw [hnone]
    exact .cons_of_none (Station.care_of_step hstep hnone) hnone hpolices
  · intro other hother
    exact ⟨rfl, Option.some.inj (hother.symm.trans hdecided), hspent.trans hkept⟩
  · rw [hdecided] at hnot
    cases hnot

/-- A poller that has not decided yet, nor is about to deal with a loss, goes on. -/
theorem Policed.goesOn (h : Policed policy after.poller stints last exit)
    (hpolicy : before.poller.resources.recovery = some policy)
    (hformed : before.floor.pool.WellFormed) (hstep : (before.step conducts).Path said after)
    (hundecided : before.poller.phase.decided? = none) (hnone : before.poller.phase.loss? = none) :
    Policed policy before.poller (⟨before, said, after⟩ :: stints) last exit := by
  obtain ⟨losses, hpolices, hdecided, houtlives⟩ := h
  obtain ⟨hlost, hnot⟩ :=
    Station.goesOn_of_step hformed hstep (by rw [hpolicy]; rfl) hundecided hnone
  rw [hlost, (Station.move_of_step hformed hstep).resources_eq] at hpolices
  refine ⟨losses, ?_, fun decided hsome => ?_, fun _ => ?_⟩
  · rw [hnone]
    exact .cons_of_none (Station.care_of_step hstep hnone) hnone hpolices
  · rw [hundecided] at hsome
    cases hsome
  · cases hafter : after.poller.phase.decided? with
    | none => exact houtlives hafter
    | some decided =>
      obtain ⟨rfl, rfl, -⟩ := hdecided decided hafter
      exact .all (List.forall_mem_nil _) fun error heq => hnot error (heq ▸ hafter)

end Steps

private theorem Career.policed (h : poller.Career conducts stints last)
    (hpolicy : poller.resources.recovery = some policy) (hleft : last.phase = .left exit) :
    Policed policy poller stints last exit := by
  induction h with
  | @rest poller =>
    rw [Policed, hleft]
    refine ⟨[], ⟨rfl, rfl, List.forall_mem_nil _, rfl⟩, ?_, nofun⟩
    intro decided hdecided
    exact ⟨rfl, (Option.some.inj hdecided).symm, rfl⟩
  | @goesOn before after said stints last hformed hstep _ ih =>
    have hresources := (Station.move_of_step hformed hstep).resources_eq
    have hlater := ih (hresources ▸ hpolicy) hleft
    cases hloss : before.poller.phase.loss? with
    | some pending =>
      obtain ⟨loss, hstint, hhandled, hwithdrawn⟩ :=
        Station.handled_of_step hpolicy hformed hstep hloss
      obtain rfl : before = loss.stint.before := by rw [hstint]
      obtain rfl : after = loss.stint.after := by rw [hstint]
      rw [← hstint]
      exact hlater.handled hhandled hresources hwithdrawn
    | none =>
      cases hdecided : before.poller.phase.decided? with
      | some decided => exact hlater.decided hformed hstep hdecided
      | none => exact hlater.goesOn hpolicy hformed hstep hdecided hloss

private theorem Career.executes (h : poller.Career conducts stints last)
    (hpolicy : poller.resources.recovery = some policy) {stint : Stint E} (hmem : stint ∈ stints)
    {unit : TestUnit} (hphase : stint.before.poller.phase = .executing unit) :
    stint.Executes conducts poller.resources unit := by
  obtain ⟨-, hresources, hstep⟩ := h.step_of_mem hmem
  obtain ⟨result, mid, hact, hafter⟩ := Station.phase_of_step hstep
  rw [hphase] at hact
  obtain ⟨-, ran, run, after, network, hsaid, -, hexecute, hnext⟩ := Station.ends_execute hact
  rw [hresources, hpolicy] at hnext
  rw [hresources] at hexecute
  have hlost : stint.lost? = unit.loss? ran := by
    rw [← Phase.loss?_afterRun, Stint.lost?, hphase]
    exact congrArg Phase.loss? (hafter.trans hnext)
  refine ⟨run, ran, network, ⟨after, hsaid.symm⟩, hexecute, hlost, fun hheeded => ?_⟩
  obtain ⟨attempted, hattempts, rfl⟩ := attempts_of_execute hexecute hheeded
  exact ⟨attempted, hattempts, hlost.trans TestUnit.loss?_contain⟩

/-- Whatever the units, the device and the other pollers do in the run of a poller with a recovery
policy: each run of a unit that ends for the loss of the device is one loss, and nothing else is.
Each loss is handled as it should be, so that one record is made of it, and nothing else is done to
look after the device. The poller leaves with an error exactly if it gives up on a loss, which is
then the last one; it withdraws nothing after that. -/
theorem losses_policed (hcareer : poller.Career conducts stints last)
    (hstart : poller.phase = .wiringCollectors) (hpolicy : poller.resources.recovery = some policy)
    (hleft : last.phase = .left exit) :
    (∀ stint ∈ stints, ∀ unit, stint.before.poller.phase = .executing unit →
      stint.Executes conducts poller.resources unit) ∧
    ∃ losses : List (Loss E),
      losses.map (fun loss => (loss.unit, loss.error)) = stints.filterMap Stint.lost? ∧
      losses.map Loss.stint = stints.filter Stint.recovers ∧
      (∀ loss ∈ losses, loss.Handled policy poller.resources.device) ∧
      Session.care (Stint.conversation stints) =
        losses.flatMap (Loss.care poller.resources.device) ∧
      last.Outlives exit losses := by
  obtain ⟨losses, hpolices, -, houtlives⟩ := hcareer.policed hpolicy hleft
  rw [hstart] at hpolices houtlives
  exact ⟨fun stint hmem unit => hcareer.executes hpolicy hmem, losses, hpolices.lost,
    hpolices.steps, hpolices.handled, hpolices.care, houtlives rfl⟩

/-- A virtual device comes back while others are running, and is given up when nobody else is. -/
theorem losses_policed_two_losses :
    let lost : TaskError := { category := .deviceNotAvailable, code := 1, message := "gone" }
    let first := TestUnit.plain 0 "a" []
    let second := TestUnit.plain 1 "b" []
    let policy : RecoveryPolicy := {}
    let resources : Resources := { device := ⟨"d1", .virtual⟩, recovery := some policy }
    let conducts : Conducts .callbook := .announcing [] (.ok (.error lost))
    ∃ stints last, (ofResources resources).Career conducts stints last ∧
      last.phase = .left (.ok (.error lost)) ∧ last.withdrawn = [first, second] ∧
      ∃ losses : List (Loss .callbook),
        losses.map (fun loss => (loss.unit, loss.error, loss.back)) =
          [(first, lost, true), (second, lost, false)] ∧
        (∀ loss ∈ losses, loss.Handled policy resources.device) ∧
        Session.care (Stint.conversation stints) = losses.flatMap (Loss.care resources.device) := by
  intro lost first second policy resources conducts
  let answer := Session.obligingWorld (E := .callbook) (fun _ _ => false) fun _ => ()
  let waiting := TestUnit.plain 2 "c" []
  let station : Station := {
    poller := ofResources resources
    floor :=
      { pool := .ofUnits WorkPool.asGiven [some first, some second, some waiting] [] none
        running := 2 } }
  -- The other poller leaves before the second loss is dealt with.
  let career := station.career conducts answer (List.replicate 10 2 ++ List.replicate 3 1)
  obtain ⟨stints, last, hcareer, hleft, hwithdrawn, hlosts⟩ :
      ∃ stints last, (ofResources resources).Career conducts stints last ∧
        last.phase = .left (.ok (.error lost)) ∧ last.withdrawn = [first, second] ∧
        stints.filterMap Stint.lost? = [(first, lost), (second, lost)] := by
    refine ⟨career.1, career.2, ?_, ?_, by decide +kernel, by decide +kernel⟩
    · exact @Station.career_career _ conducts answer _ station WorkPool.wellFormed_ofUnits
    · exact exit?_eq_some.mp (by decide +kernel)
  obtain ⟨-, losses, hlost, -, hhandled, hcare, houtlives⟩ :=
    losses_policed hcareer rfl rfl hleft
  rw [hlosts] at hlost
  refine ⟨stints, last, hcareer, hleft, hwithdrawn, losses, ?_, hhandled, hcare⟩
  cases houtlives with
  | all hback hexit => exact absurd rfl (hexit lost)
  | @allBut earlier final hback hfinal hexit hspent =>
    rcases earlier with _ | ⟨loss, _ | ⟨_, _⟩⟩
    · simp at hlost
    · simp_all
    · simp at hlost

end Poller

end Fleet
