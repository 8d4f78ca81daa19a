import Fleet.Proofs.Crew.SignOut
import Fleet.Proofs.Module.Footing
import Fleet.Proofs.Module.Staged
import Fleet.Proofs.Poller.Footing

/-!
# State machines keep to their tables

Pollers and modules that run once request only steps that the tables of their state machines have,
and end in the states that are meant to be the last ones. A state machine itself keeps to its table
whatever is requested of it.
-/

namespace Fleet

namespace Crew

variable {E : Interface} {conducts : Conducts E} {crew last : Crew} {schedule : List Nat}
  {trace : List (Session.Exchange (World E))}

/-- Pollers that stand where their phases say do so after any play, and none of the steps of their
lifecycles is refused. -/
theorem stands_of_play
    (hstands : ∀ poller ∈ crew.pollers, poller.phase.Stands poller.lifecycle.state)
    (hplay : (crew.play conducts schedule).Path trace last) :
    (∀ exchange ∈ trace, World.Sure exchange.question) ∧
      ∀ poller ∈ last.pollers, poller.phase.Stands poller.lifecycle.state := by
  refine Session.invariant_follow (fun trace crew =>
    (∀ exchange ∈ trace, World.Sure exchange.question) ∧
      ∀ poller ∈ crew.pollers, poller.phase.Stands poller.lifecycle.state)
    ?_ ⟨List.forall_mem_nil _, hstands⟩ hplay
  intro past index crew trace next ⟨hpast, hstands⟩ hstep
  rcases step_cases hstep with ⟨-, rfl, rfl⟩ | ⟨poller, station, hpoller, hmoved, rfl⟩
  · exact ⟨by rwa [List.append_nil], hstands⟩
  · obtain ⟨hsaid, hnow⟩ :=
      Station.stands_of_step (hstands poller (List.mem_of_getElem? hpoller)) hmoved
    refine ⟨List.forall_mem_append.mpr ⟨hpast, hsaid⟩, fun other hother => ?_⟩
    rcases List.mem_or_eq_of_mem_set hother with hother | rfl
    · exact hstands other hother
    · exact hnow

end Crew

/-- What a state machine does after any requests: it accepts what its table has and refuses the
rest, which changes nothing, and where its state is meant to be the last one it stays there. -/
structure Lifecycle.Obeys {σ : Type} [StateMachine σ] (cycle : Lifecycle σ) (requests : List σ)
    (next : σ) : Prop where
  accepts : ∀ moved, (cycle.afterAll requests).transitionTo next = .ok moved →
    StateMachine.legal (cycle.afterAll requests).state next = true ∧
      moved = { cycle.afterAll requests with state := next }
  refuses : ∀ error, (cycle.afterAll requests).transitionTo next = .error error →
    StateMachine.legal (cycle.afterAll requests).state next = false ∧
      error.category = .internal ∧
      (cycle.afterAll requests).after next = cycle.afterAll requests
  stays : StateMachine.terminal cycle.state = true → cycle.afterAll requests = cycle

private theorem Lifecycle.obeys {σ : Type} [StateMachine σ] {cycle : Lifecycle σ}
    {requests : List σ}
    {next : σ} (hstuck : StateMachine.terminal cycle.state = true →
      ∀ next, StateMachine.legal cycle.state next = false) : cycle.Obeys requests next where
  accepts _ := legal_of_accepted
  refuses _ := unchanged_of_refused
  stays hterminal := afterAll_of_stuck (hstuck hterminal)

/-- No step of a state machine is refused while pollers with any pool run once each, in any order of
their steps, or a module runs for the first time, whatever is answered or thrown. A poller whose run
returns is terminated; a module whose run returns is bypassed if its controller asked for that, and
done if not. Whatever else is requested of a state machine, it keeps to its table, and a module's
accepts five requests at most. -/
theorem tables_obeyed :
    (∀ (E : Interface) (conducts : Conducts E) (floor : Floor) (resources : List Resources)
      (schedule : List Nat) (trace : List (Session.Exchange (World E))) (last : Crew),
      (Crew.play conducts schedule { floor, pollers := resources.map .ofResources }).Path trace
        last →
      (∀ exchange ∈ trace, ¬World.Misstep exchange.question) ∧
      ∀ poller ∈ last.pollers, ∀ outcome, poller.exit? = some (.ok outcome) →
        poller.lifecycle.state = .terminated) ∧
    (∀ (E : Interface) (conducts : Conducts E) (module last : Module)
      (trace : List (Session.Exchange (World E))) (result : Exit),
      module.lifecycle.state = .created →
      (Module.run conducts).Ends module trace result last →
      (∀ exchange ∈ trace, ¬World.Misstep exchange.question) ∧
      ∀ outcome, result = .ok outcome →
        (.decided .fullModuleBypass ∈ Session.deeds trace → last.lifecycle.state = .bypassed) ∧
        (.decided .fullModuleBypass ∉ Session.deeds trace → last.lifecycle.state = .done)) ∧
    (∀ (cycle : Lifecycle PollerState) (requests : List PollerState) (next : PollerState),
      cycle.Obeys requests next) ∧
    (∀ (cycle : Lifecycle ModuleState) (requests : List ModuleState) (next : ModuleState),
      cycle.Obeys requests next) ∧
    ∀ (cycle : Lifecycle ModuleState) (requests : List ModuleState),
      (cycle.accepted requests).length ≤ 5 := by
  refine ⟨?_, ?_, ?_, ?_, ?_⟩
  · intro E conducts floor resources schedule trace last hplay
    have hstart : ∀ poller ∈ resources.map Poller.ofResources,
        poller.phase.Stands poller.lifecycle.state := by
      rintro _ hpoller
      obtain ⟨resource, -, rfl⟩ := List.mem_map.mp hpoller
      rfl
    obtain ⟨hsure, hstands⟩ := Crew.stands_of_play hstart hplay
    refine ⟨fun exchange hexchange => (hsure exchange hexchange).not_misstep, ?_⟩
    intro poller hpoller outcome hexit
    have hstands := hstands poller hpoller
    rwa [Poller.exit?_eq_some.mp hexit] at hstands
  · intro E conducts module last trace result hcreated h
    exact Module.ends_run_of_created hcreated h
  · exact fun cycle requests next => Lifecycle.obeys Lifecycle.stuck_of_terminated
  · exact fun cycle requests next => Lifecycle.obeys Lifecycle.stuck_of_finished
  · intro cycle requests
    have hlevel : cycle.state.level ≤ 5 := by cases cycle.state <;> decide
    exact Nat.le_trans (Lifecycle.length_accepted_le ModuleState.level
      fun _ _ => ModuleState.level_lt) hlevel

/-- A poller that runs a unit and a module that runs one come to their last states, and a terminated
poller stays terminated. -/
theorem tables_obeyed_one_unit :
    let conducts : Conducts .silent := fun _ => .telling [] (.ok (.ok ()))
    let pool : WorkPool := .ofUnits WorkPool.asGiven [some (.plain 0 "unit" [])] [] none
    let floor : Floor := { pool, running := 1 }
    let resources : List Resources := [{ device := ⟨"d1", .physical⟩ }]
    let allWell : Target → Exit := fun _ => .ok (.ok ())
    let terminated : Lifecycle PollerState := { owner := "d1", state := .terminated }
    (∃ trace last poller,
      (Crew.play conducts (List.replicate 9 0)
        { floor, pollers := resources.map .ofResources }).Path trace last ∧
      (∀ exchange ∈ trace, ¬World.Misstep exchange.question) ∧
      last.pollers[0]? = some poller ∧ poller.exit? = some (.ok (.ok ())) ∧
      poller.lifecycle.state = .terminated) ∧
    (Module.suite.staged conducts allWell allWell).2.2.lifecycle.state = .done ∧
    terminated.afterAll [.polling, .dispatching] = terminated := by
  intro conducts pool floor resources allWell terminated
  obtain ⟨hpollers, hmodules, hrequests, -⟩ := tables_obeyed
  refine ⟨?_, ?_, (hrequests terminated [.polling, .dispatching] .polling).stays rfl⟩
  · let session : Work .silent Crew :=
      Crew.play conducts (List.replicate 9 0) { floor, pollers := resources.map .ofResources }
    let course := session.converse (Session.obligingWorld (fun _ _ => false) Interface.silence)
    have hplay : session.Path course.1 course.2 := Session.path_converse _ session
    obtain ⟨hsure, hlast⟩ := hpollers _ conducts floor resources _ _ _ hplay
    obtain ⟨poller, hpoller, hexit⟩ : ∃ poller, course.2.pollers[0]? = some poller ∧
        poller.exit? = some (.ok (.ok ())) := by
      refine ⟨_, List.getElem?_eq_getElem (by decide +kernel), ?_⟩
      decide +kernel
    exact ⟨course.1, course.2, poller, hplay, hsure, hpoller, hexit,
      hlast poller (List.mem_of_getElem? hpoller) _ hexit⟩
  · refine ((hmodules _ conducts Module.suite _ _ _ rfl
      (Module.ends_staged Module.suite conducts allWell allWell)).2 (.ok ()) ?_).2 ?_
    · decide +kernel
    · intro hbypassed
      cases Module.decided_staged Module.suite conducts allWell allWell hbypassed

end Fleet
