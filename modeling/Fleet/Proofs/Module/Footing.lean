import Fleet.Proofs.Lifecycle
import Fleet.Proofs.Module.Deeds

/-!
# Where a module stands

A module that is run once goes through its states in the order of the table. What it does in
between, setting up, running units, cleaning up and reporting, leaves its lifecycle alone.
-/

namespace Fleet.Module

variable {E : Interface} {conducts : Conducts E} {unit : TestUnit} {origin next : ModuleState}
  {failure first : Option TaskError}

/-- The state of the module's lifecycle. -/
def standing (module : Module) : ModuleState :=
  module.lifecycle.state

private theorem standing_attachDefaultDevice (module : Module) :
    module.attachDefaultDevice.standing = module.standing := by
  unfold attachDefaultDevice
  split
  · rfl
  · rfl

/-- A step that the table has is taken. -/
theorem walks_transition (h : StateMachine.legal origin next = true) :
    Flow.Walks standing origin (transition (E := E) next) fun _ state => state = next := by
  intro first trace result last hends horigin
  subst horigin
  have hmoved : first.lifecycle.transitionTo next = .ok _ := Lifecycle.transitionTo_of_legal h
  rw [transition, Flow.ends_get_bind, hmoved] at hends
  obtain ⟨rfl, -, rfl⟩ := Flow.ends_modify.mp hends
  exact ⟨List.forall_mem_nil _, fun _ _ => rfl⟩

/-- What follows a step that the table has walks on from there. -/
theorem walks_transition_bind {α : Type} {f : Unit → Flow E Module α}
    {arrives : α → ModuleState → Prop} (h : StateMachine.legal origin next = true)
    (hf : Flow.Walks standing next (f ()) arrives) :
    Flow.Walks standing origin (transition next >>= f) arrives :=
  (walks_transition h).bind fun _ _ hstate => hstate ▸ hf

private theorem still_log {level : LogLevel} {event message : String}
    (h : event ≠ "illegal_transition") :
    Flow.Still standing (log (E := E) level event message) :=
  .bind .get fun _ => .log (World.sure_log (E := E) h)

private theorem still_settle {origin : String} {category : ErrorCategory} {exit : Exit} :
    Flow.Still standing (settle (E := E) origin category exit) := by
  rcases exit with (what | _) | outcome
  · exact .pure _
  · exact .resume (.error _)
  · exact .pure _

private theorem still_setUpOne {preparer : Preparer} {device : Device} {build : Option Build} :
    Flow.Still standing (setUpOne (E := E) preparer device build) := by
  unfold setUpOne
  split
  · exact .bind (still_log (by decide)) fun _ => .pure _
  · refine .bind (.modify fun _ => rfl) fun _ => .bind (.request trivial) fun _ =>
      .bind still_settle fun outcome => ?_
    cases outcome <;> exact .pure _

private theorem still_setUpDevice {device : Device} {build : Option Build}
    {preparers : List Preparer} :
    Flow.Still standing (setUpDevice (E := E) device build preparers) := by
  induction preparers with
  | nil => exact .pure _
  | cons preparer rest ih =>
    refine .bind still_setUpOne fun failed => ?_
    cases failed with
    | some error => exact .pure _
    | none => exact ih

private theorem still_setUpDevices {preparers : List (String × List Preparer)} :
    Flow.Still standing (setUpDevices (E := E) preparers) := by
  induction preparers with
  | nil => exact .pure _
  | cons named rest ih =>
    refine .bind .get fun module => ?_
    split
    · exact .pure _
    · refine .bind still_setUpDevice fun failed => ?_
      cases failed with
      | some error => exact .pure _
      | none => exact ih

private theorem still_setUpAll {preparers : List MultiPreparer} :
    Flow.Still standing (setUpAll (E := E) preparers) := by
  induction preparers with
  | nil => exact .pure _
  | cons preparer rest ih =>
    rw [setUpAll]
    split
    · exact ih
    · refine .bind (.modify fun _ => rfl) fun _ => .bind .get fun _ =>
        .bind (.request trivial) fun _ => .bind still_settle fun outcome => ?_
      cases outcome with
      | error error => exact .pure _
      | ok _ => exact ih

private theorem still_prepare : Flow.Still standing (prepare (E := E)) := by
  refine .bind .get fun _ => .bind still_setUpDevices fun failed => ?_
  cases failed with
  | some error => exact .pure _
  | none => exact .bind .get fun _ => still_setUpAll

private theorem still_listen (event : Event) : Flow.Still standing (listen (E := E) event) := by
  have hpass : ∀ log kind data, Flow.Still standing (passLog (E := E) log kind data) := by
    intro log kind data
    refine .bind .get fun module => ?_
    split
    · exact .send trivial
    · refine .bind (.request trivial) fun saved => ?_
      cases saved with
      | error error => exact .log (World.sure_log (E := E) (by decide))
      | ok file => exact .send trivial
  cases event with
  | testLog log kind data => exact hpass log kind data
  | logSaved => exact .send trivial
  | _ => exact .modify fun _ => rfl

private theorem still_runUnit : Flow.Still standing (runUnit conducts unit) := by
  refine .bind .get fun _ => .bind (.forM fun _ => ?_) fun _ => ?_
  · exact .bind (.request trivial) fun _ => .resume _
  refine .bind (.attempt (.perform ?_ (fun _ => trivial) _)) fun _ => still_settle
  rintro (event | _)
  · exact still_listen event
  · exact .pure _

private theorem still_runUnits {units : List TestUnit} :
    Flow.Still standing (runUnits conducts units) := by
  induction units with
  | nil => exact .pure _
  | cons unit rest ih =>
    refine .bind .get fun module => ?_
    split
    · exact .bind (still_log (by decide)) fun _ => ih
    · refine .bind still_runUnit fun outcome => ?_
      cases outcome with
      | ok _ => exact ih
      | error error =>
        refine .bind (.modify fun _ => rfl) fun _ => ?_
        split
        · exact .bind (still_log (by decide)) fun _ => .pure _
        · exact .bind (still_log (by decide)) fun _ => ih

private theorem still_noteTearDown {name : String} {outcome : Outcome} :
    Flow.Still standing (noteTearDown (E := E) name first outcome) := by
  cases outcome with
  | ok _ => exact .pure _
  | error error => exact .bind (still_log (by decide)) fun _ => .pure _

private theorem still_tearDownAll {preparers : List MultiPreparer} :
    Flow.Still standing (tearDownAll (E := E) failure first preparers) := by
  induction preparers generalizing first with
  | nil => exact .pure _
  | cons preparer rest ih =>
    exact .bind .get fun _ => .bind (.request trivial) fun _ => .bind still_settle fun _ =>
      .bind still_noteTearDown fun _ => ih

private theorem still_tearDownDevices {targets : List PreparedTarget} :
    Flow.Still standing (tearDownDevices (E := E) failure first targets) := by
  induction targets generalizing first with
  | nil => exact .pure _
  | cons target rest ih =>
    rw [tearDownDevices]
    split
    · exact .bind (.request trivial) fun _ => .bind still_settle fun _ =>
        .bind still_noteTearDown fun _ => ih
    · exact ih

private theorem still_tearDown : Flow.Still standing (tearDown (E := E) failure) :=
  .bind .get fun _ => .bind still_tearDownAll fun _ => .bind .get fun _ =>
    .bind still_tearDownDevices fun _ => .bind (.modify fun _ => rfl) fun _ => .pure _

/-- A module gets as far as it was prepared. -/
theorem walks_prepareAndRun :
    Flow.Walks standing .controllerCheck (prepareAndRun conducts) fun _ state =>
      state = .preparing ∨ state = .running := by
  refine walks_transition_bind rfl (still_prepare.walks_bind fun failed => ?_)
  cases failed with
  | some error =>
    refine (still_log (by decide)).walks_bind fun _ => ?_
    exact Flow.Still.walks_bind (.modify fun _ => rfl) fun _ => .pure (.inl rfl)
  | none =>
    refine walks_transition_bind rfl (Flow.Still.walks_bind .get fun _ => ?_)
    exact still_runUnits.walks fun _ => .inr rfl

private theorem walks_report {startedAt : Int} {outcome : Outcome} :
    Flow.Walks (E := E) standing .tearingDown (do
      transition .done
      let finishedAt ← Flow.request .clock
      let module ← get
      (module.result.replay module.id (finishedAt - startedAt)).forM (Flow.send 0)
      return outcome) fun _ state => state = .done := by
  refine walks_transition_bind rfl (Flow.Still.walks_bind (.request trivial) fun _ => ?_)
  refine Flow.Still.walks_bind .get fun module => ?_
  exact Flow.Still.walks_bind (.forM fun _ => .send trivial) fun _ => .pure rfl

/-- A module that goes through all its phases is done. -/
theorem walks_runPhases {startedAt : Int} :
    Flow.Walks standing .controllerCheck (runPhases conducts startedAt) fun _ state =>
      state = .done := by
  refine walks_prepareAndRun.bind fun failed state hstate => ?_
  have hlegal : StateMachine.legal state ModuleState.tearingDown = true := by
    obtain rfl | rfl := hstate <;> rfl
  refine walks_transition_bind hlegal (still_tearDown.walks_bind fun untidied => ?_)
  -- The three cases of the condition go on to the same report.
  split
  · exact Flow.Still.walks_bind (.modify fun _ => rfl) fun _ => walks_report
  · exact walks_report

/-- What the module goes on to once it is decided what to do. -/
theorem walks_decided {startedAt : Int} {strategy : RunStrategy} :
    Flow.Walks standing .controllerCheck (do
      modify ({ · with strategy })
      match strategy with
      | .fullModuleBypass =>
        log .info "module_bypassed" ("Module controller requested a full bypass of "
          ++ (← get).id)
        transition .bypassed
        return .ok ()
      | .skipModuleTestcases =>
        log .info "module_testcases_skipped"
          ("Module controller requested to skip the test cases of " ++ (← get).id)
        modify attachDefaultDevice
        runPhases conducts startedAt
      | .run =>
        modify attachDefaultDevice
        runPhases conducts startedAt)
      fun _ state => state = if strategy = .fullModuleBypass then .bypassed else .done := by
  have hattach : Flow.Walks standing .controllerCheck (do
      modify attachDefaultDevice
      runPhases conducts startedAt) fun _ state => state = .done :=
    Flow.Still.walks_bind (.modify standing_attachDefaultDevice) fun _ => walks_runPhases
  refine Flow.Still.walks_bind (.modify fun _ => rfl) fun _ => ?_
  cases strategy with
  | fullModuleBypass =>
    refine Flow.Still.walks_bind .get fun _ => (still_log (by decide)).walks_bind fun _ => ?_
    exact walks_transition_bind rfl (.pure rfl)
  | skipModuleTestcases =>
    exact Flow.Still.walks_bind .get fun _ => (still_log (by decide)).walks_bind fun _ => hattach
  | run => exact hattach

/-- The controller is asked once at most. -/
theorem ends_askController_once {result : Except Thrown RunStrategy} {before last : Module}
    {trace : List (Session.Exchange (World E))}
    (h : askController.Ends before trace result last) :
    ∃ strategy, result = .ok strategy ∧ last = before ∧
      ((trace = [] ∧ strategy = .run) ∨
        ∃ controller context, trace = [⟨.inl (.shouldRun controller context), strategy⟩]) := by
  rw [askController, Flow.ends_get_bind] at h
  split at h
  · obtain ⟨strategy, rfl, rfl, rfl⟩ := Flow.ends_request.mp h
    exact ⟨strategy, rfl, rfl, .inr ⟨_, _, rfl⟩⟩
  · obtain ⟨rfl, rfl, rfl⟩ := Flow.ends_pure.mp h
    exact ⟨.run, rfl, rfl, .inl ⟨rfl, rfl⟩⟩

section Run

variable {trace : List (Session.Exchange (World E))} {module last : Module} {result : Exit}

/-- Where nothing but sure questions is asked, nothing is decided. -/
theorem decided_not_mem_deeds (h : ∀ exchange ∈ trace, World.Sure exchange.question)
    (strategy : RunStrategy) : .decided strategy ∉ Session.deeds trace := by
  intro hmem
  obtain ⟨⟨question, answer⟩, hexchange, hdeed⟩ := List.mem_filterMap.mp hmem
  have hsure := h _ hexchange
  rcases question with question | errand
  · cases question with
    | shouldRun => exact hsure
    | _ => cases hdeed
  · cases hdeed

/-- The one decision in a conversation is the one that is asked for. -/
theorem decided_mem_deeds {before asked after : List (Session.Exchange (World E))}
    {strategy : RunStrategy} (hbefore : ∀ exchange ∈ before, World.Sure exchange.question)
    (hafter : ∀ exchange ∈ after, World.Sure exchange.question)
    (hasked : (asked = [] ∧ strategy = .run) ∨
      ∃ controller context, asked = [⟨.inl (.shouldRun controller context), strategy⟩]) :
    .decided .fullModuleBypass ∈ Session.deeds (before ++ (asked ++ after)) ↔
      strategy = .fullModuleBypass := by
  rw [Session.deeds_append, Session.deeds_append, List.mem_append, List.mem_append,
    or_iff_right (decided_not_mem_deeds hbefore _), or_iff_left (decided_not_mem_deeds hafter _)]
  obtain ⟨rfl, rfl⟩ | ⟨controller, context, rfl⟩ := hasked
  · simp
  · change _ ∈ [Deed.decided strategy] ↔ _
    simp [eq_comm]

/-- A module that is run for the first time takes only steps that its table has, whatever its
preparers, units and controller do. If the run returns, the module is bypassed or done, as its
controller has it. -/
theorem ends_run_of_created (hcreated : module.standing = .created)
    (h : (run conducts).Ends module trace result last) :
    (∀ exchange ∈ trace, ¬World.Misstep exchange.question) ∧ ∀ outcome, result = .ok outcome →
      (.decided .fullModuleBypass ∈ Session.deeds trace → last.standing = .bypassed) ∧
      (.decided .fullModuleBypass ∉ Session.deeds trace → last.standing = .done) := by
  obtain ⟨startedAt, rest, rfl, hstarted⟩ := Flow.ends_request_bind.mp h
  rcases Flow.ends_bind.mp hstarted with
    ⟨thrown, hthrown, rfl⟩ | ⟨⟨⟩, moved, later, checked, rfl, hmoved, hmodified⟩
  · have hsure := (walks_transition rfl hthrown hcreated).1
    exact ⟨List.forall_mem_cons.mpr ⟨not_false, fun exchange hexchange =>
      (hsure exchange hexchange).not_misstep⟩, nofun⟩
  obtain ⟨hmoves, hchecked⟩ := walks_transition rfl hmoved hcreated
  rw [Flow.ends_modify_bind] at hmodified
  rcases Flow.ends_bind.mp hmodified with
    ⟨thrown, hthrown, -⟩ | ⟨strategy, asked, after, mid, rfl, hasked, hdecided⟩
  · obtain ⟨_, hnot, -⟩ := ends_askController_once hthrown
    cases hnot
  obtain ⟨_, hstrategy, rfl, honce⟩ := ends_askController_once hasked
  obtain rfl := Except.ok.inj hstrategy
  obtain ⟨hafter, harrives⟩ := walks_decided hdecided (hchecked () rfl)
  have hbefore : ∀ exchange ∈ ⟨.inl .clock, startedAt⟩ :: moved, World.Sure exchange.question :=
    List.forall_mem_cons.mpr ⟨trivial, hmoves⟩
  have hasking : ∀ exchange ∈ asked, ¬World.Misstep exchange.question := by
    obtain ⟨rfl, -⟩ | ⟨controller, context, rfl⟩ := honce
    · exact List.forall_mem_nil _
    · exact List.forall_mem_singleton.mpr not_false
  rw [← List.cons_append, decided_mem_deeds hbefore hafter honce]
  refine ⟨?_, fun outcome houtcome => ?_⟩
  · refine List.forall_mem_append.mpr ⟨fun exchange hexchange =>
      (hbefore exchange hexchange).not_misstep, List.forall_mem_append.mpr ⟨hasking, ?_⟩⟩
    exact fun exchange hexchange => (hafter exchange hexchange).not_misstep
  · have hlast := harrives outcome houtcome
    exact ⟨fun hbypass => by rw [hlast, if_pos hbypass],
      fun hruns => by rw [hlast, if_neg hruns]⟩

end Run

end Fleet.Module
