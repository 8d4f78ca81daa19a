import Fleet.Proofs.Poller.Move

/-!
# Where a poller stands

The phase of a poller says which state its lifecycle is in, unless something was thrown at it. Each
phase requests only steps that lead on from that state, so that none is ever refused.
-/

namespace Fleet

variable {E : Interface}

/-- A poller in this phase stands in this state. Where one stands that something was thrown at is
left open. -/
def Phase.Stands : Phase → PollerState → Prop
  | .wiringCollectors, state | .seekingGated, state | .seekingGeneric, state
  | .dispatching _, state => state = .polling
  | .executing _, state | .recovering .., state => state = .executing
  | .leaving (.ok _), state | .reporting (.ok _), state | .left (.ok _), state =>
    state = .terminated
  | .leaving (.error _), _ | .reporting (.error _), _ | .left (.error _), _ => True

/-- Neither signing out nor the final report makes a difference to where a poller stands. -/
theorem Phase.stands_reporting {exit : Exit} {state : PollerState} :
    (Phase.reporting exit).Stands state ↔ (Phase.leaving exit).Stands state := by
  cases exit <;> exact Iff.rfl

private theorem Phase.stands_left {exit : Exit} {state : PollerState} :
    (Phase.left exit).Stands state ↔ (Phase.leaving exit).Stands state := by
  cases exit <;> exact Iff.rfl

private theorem World.Browsing.sure {question : (World E).Question} (h : World.Browsing question) :
    World.Sure question := by
  rcases question with question | errand
  · cases question with
    | log entry =>
      have hmem : entry.event ∈ ["missing_provider", "token_rejected"] := h
      exact ne_of_mem_of_not_mem hmem (by decide)
    | shouldRun => cases h
    | _ => trivial
  · cases h

private theorem World.Reviving.sure {question : (World E).Question} (h : World.Reviving question) :
    World.Sure question := by
  rcases question with question | errand
  · cases question with
    | log entry =>
      have hmem : entry.event ∈ recoveryEvents := h
      exact ne_of_mem_of_not_mem hmem (by decide)
    | shouldRun => cases h
    | _ => trivial
  · cases h

private theorem World.Relaying.sure {question : (World E).Question} (h : World.Relaying question) :
    World.Sure question := by
  rcases question with question | errand
  · cases question with
    | log entry =>
      have hmem : entry.event ∈ ["save_failed", "open_run_closed", "not_executed_unreportable",
        "report_not_executed_failed"] := h
      exact ne_of_mem_of_not_mem hmem (by decide)
    | shouldRun => cases h
    | _ => trivial
  · trivial

private theorem World.Playing.sure {question : (World E).Question} (h : World.Playing question) :
    World.Sure question := by
  obtain hrelaying | ⟨unit, dependency, rfl⟩ := h
  · exact hrelaying.sure
  · trivial

namespace Station

/-- The state of the poller's lifecycle. -/
def standing (station : Station) : PollerState :=
  station.poller.lifecycle.state

variable {conducts : Conducts E} {unit : TestUnit} {origin next : PollerState}

private theorem still_onNetwork {α : Type} {flow : Flow E Network α} (h : flow.Asks World.Sure) :
    Flow.Still standing (onNetwork flow) :=
  .within h fun _ _ => rfl

private theorem still_log {level : LogLevel} {event message : String}
    (h : event ≠ "illegal_transition") :
    Flow.Still standing (log (E := E) level event message) :=
  .bind .get fun _ => .log (World.sure_log (E := E) h)

/-- A step that the table has is taken. -/
theorem walks_transition (h : StateMachine.legal origin next = true) :
    Flow.Walks standing origin (transition (E := E) next) fun _ state => state = next := by
  intro first trace result last hends horigin
  subst horigin
  have hmoved : first.poller.lifecycle.transitionTo next = .ok _ :=
    Lifecycle.transitionTo_of_legal h
  rw [transition, Flow.ends_get_bind, hmoved] at hends
  obtain ⟨rfl, -, rfl⟩ := Flow.ends_modify.mp hends
  exact ⟨List.forall_mem_nil _, fun _ _ => rfl⟩

/-- What follows a step that the table has walks on from there. -/
theorem walks_transition_bind {α : Type} {f : Unit → Flow E Station α}
    {arrives : α → PollerState → Prop} (h : StateMachine.legal origin next = true)
    (hf : Flow.Walks standing next (f ()) arrives) :
    Flow.Walks standing origin (transition next >>= f) arrives :=
  (walks_transition h).bind fun _ _ hstate => hstate ▸ hf

private theorem walks_proceed (h : StateMachine.legal origin .polling = true) :
    Flow.Walks standing origin (proceed (E := E)) Phase.Stands :=
  walks_transition_bind h (.pure rfl)

private theorem walks_terminate {error : TaskError}
    (h : StateMachine.legal origin .terminated = true) :
    Flow.Walks standing origin (terminate (E := E) error) Phase.Stands :=
  walks_transition_bind h (.pure rfl)

private theorem walks_wireCollectors :
    Flow.Walks standing .polling (wireCollectors (E := E)) Phase.Stands := by
  refine Flow.Still.walks_bind .get fun station => ?_
  refine Flow.Still.walks_bind (.forM fun position => ?_) fun _ => .pure rfl
  exact .bind .get fun _ => .bind
    (still_onNetwork (Network.relaying_wrap.mono fun _ => World.Relaying.sure))
    fun _ => .modify fun _ => rfl

private theorem walks_withdraw :
    Flow.Walks standing .polling (withdraw (E := E) unit) Phase.Stands :=
  Flow.Still.walks_bind (.modify fun _ => rfl) fun _ => .pure rfl

private theorem walks_seekGated :
    Flow.Walks standing .polling (seekGated (E := E)) Phase.Stands := by
  have hpoll : ∀ station : Station, Flow.Still standing (Flow.work (E := E)
      (station.floor.pool.pollGated station.poller.resources.device)) :=
    fun _ => .work (WorkPool.browsing_pollGated.mono fun _ => World.Browsing.sure)
  refine Flow.Still.walks_bind .get fun station => (hpoll station).walks_bind ?_
  rintro ⟨found, pool⟩
  refine Flow.Still.walks_bind (.modify fun _ => rfl) fun _ => ?_
  cases found with
  | some unit => exact walks_withdraw
  | none => exact .pure rfl

private theorem walks_seekGeneric :
    Flow.Walks standing .polling (seekGeneric (E := E)) Phase.Stands := by
  refine Flow.Still.walks_bind .get fun station => ?_
  generalize station.floor.pool.pollGeneric = polled
  obtain ⟨found, pool⟩ := polled
  refine Flow.Still.walks_bind (.modify fun _ => rfl) fun _ => ?_
  cases found with
  | some unit => exact walks_withdraw
  | none =>
    refine walks_transition_bind rfl (Flow.Still.walks_bind .get fun _ => ?_)
    exact (still_log (by decide)).walks_bind fun _ => .pure rfl

private theorem walks_dispatch :
    Flow.Walks standing .polling (dispatch conducts unit) Phase.Stands := by
  refine walks_transition_bind rfl (Flow.Still.walks_bind .get fun station => ?_)
  refine Flow.Still.walks_bind (.forM fun dependency => ?_) fun _ => ?_
  · exact .bind (.request trivial) fun _ => .resume _
  refine Flow.Still.walks_bind (.resume _) ?_
  rintro (error | ⟨⟨⟩⟩)
  · refine Flow.Still.walks_bind (.modify fun _ => rfl) fun _ => ?_
    exact (still_log (by decide)).walks_bind fun _ => walks_transition_bind rfl (.pure rfl)
  · exact walks_transition_bind rfl (.pure rfl)

private theorem walks_execute :
    Flow.Walks standing .executing (execute conducts unit) Phase.Stands := by
  have hexecute : ∀ resources entry, Flow.Still standing
      (onNetwork (Poller.execute (conducts unit) resources entry unit)) :=
    fun _ _ => still_onNetwork (Poller.playing_execute.mono fun _ => World.Playing.sure)
  refine Flow.Still.walks_bind (.modify fun _ => rfl) fun _ => ?_
  refine Flow.Still.walks_bind .get fun station => (hexecute _ _).walks_bind ?_
  rintro (error | ⟨⟨⟩⟩)
  · dsimp only
    split
    · exact (still_log (by decide)).walks_bind fun _ => walks_proceed rfl
    · split
      · exact .pure rfl
      · exact walks_terminate rfl
    · exact (still_log (by decide)).walks_bind fun _ => walks_proceed rfl
  · exact walks_proceed rfl

private theorem walks_recover {error : TaskError} :
    Flow.Walks standing .executing (recover (E := E) unit error) Phase.Stands := by
  refine Flow.Still.walks_bind .get fun station => ?_
  split
  · exact walks_terminate rfl
  · refine Flow.Still.walks_bind
      (.work (RecoveryPolicy.reviving_handleLoss.mono fun _ => World.Reviving.sure)) ?_
    rintro (error | ⟨⟨⟩⟩)
    · exact walks_terminate rfl
    · exact walks_proceed rfl

private theorem still_reportUnit {message : String} :
    Flow.Still standing (reportUnit conducts unit message) := by
  unfold reportUnit
  split
  · exact .bind (.modify fun _ => rfl) fun _ =>
      still_onNetwork (Poller.relaying_play.mono fun _ => World.Relaying.sure)
  · exact .bind (.modify fun _ => rfl) fun _ => still_log (by decide)

/-- The final report leaves the lifecycle alone, wherever the poller stands. -/
theorem still_finalReport : Flow.Still standing (finalReport conducts) :=
  obeys_finalReport (fun _ _ => rfl) (fun _ _ => still_reportUnit) fun _ => still_log (by decide)

section Steps

variable {station mid last : Station} {trace : List (Session.Exchange (World E))}

/-- A step that walks leaves the poller standing where its next phase says. -/
theorem stands_of_walks {flow : Flow E Station Phase} {result : Except Thrown Phase}
    (hwalks : Flow.Walks standing origin flow Phase.Stands) (horigin : station.standing = origin)
    (h : flow.Ends station trace result mid) :
    (∀ exchange ∈ trace, World.Sure exchange.question) ∧
      (nextPhase result).Stands mid.standing := by
  obtain ⟨hsure, harrives⟩ := hwalks h horigin
  cases result with
  | ok phase => exact ⟨hsure, harrives phase rfl⟩
  | error thrown => exact ⟨hsure, trivial⟩

/-- A poller that stands where its phase says does so after each of its steps, and none of the steps
of its lifecycle is refused. -/
theorem stands_of_step (hstands : station.poller.phase.Stands station.standing)
    (h : (station.step conducts).Path trace last) :
    (∀ exchange ∈ trace, World.Sure exchange.question) ∧
      last.poller.phase.Stands last.standing := by
  obtain ⟨result, mid, hact, rfl⟩ := ends_of_step h
  change _ ∧ (nextPhase result).Stands mid.standing
  cases hphase : station.poller.phase with
  | wiringCollectors =>
    rw [hphase] at hact hstands
    exact stands_of_walks walks_wireCollectors hstands hact
  | seekingGated =>
    rw [hphase] at hact hstands
    exact stands_of_walks walks_seekGated hstands hact
  | seekingGeneric =>
    rw [hphase] at hact hstands
    exact stands_of_walks walks_seekGeneric hstands hact
  | dispatching unit =>
    rw [hphase] at hact hstands
    exact stands_of_walks walks_dispatch hstands hact
  | executing unit =>
    rw [hphase] at hact hstands
    exact stands_of_walks walks_execute hstands hact
  | recovering unit error =>
    rw [hphase] at hact hstands
    exact stands_of_walks walks_recover hstands hact
  | leaving exit =>
    rw [hphase] at hact hstands
    obtain ⟨rfl, rfl, rfl⟩ := ends_signOut hact
    refine ⟨List.forall_mem_nil _, ?_⟩
    cases station.floor.countDown.1 with
    | true => exact Phase.stands_reporting.mpr hstands
    | false => exact Phase.stands_left.mpr hstands
  | reporting exit =>
    rw [hphase] at hact hstands
    refine stands_of_walks (still_finalReport.walks_bind fun _ => .pure ?_) rfl hact
    exact Phase.stands_left.mpr (Phase.stands_reporting.mp hstands)
  | left exit =>
    rw [hphase] at hact hstands
    obtain ⟨rfl, rfl, rfl⟩ := Flow.ends_pure.mp hact
    exact ⟨List.forall_mem_nil _, hstands⟩

end Steps

end Station

end Fleet
