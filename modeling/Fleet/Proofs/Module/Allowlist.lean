import Fleet.Proofs.Module.Staged
import Fleet.Proofs.Remarks

/-!
# Allow-lists

An allow-list of runners does nothing but leave units out: a module that has one runs as the module
that has only the kept units and no allow-list, call by call and event by event, whatever the units
that were left out would do. All it adds are info lines about them.
-/

namespace Fleet

variable {E : Interface}

/-- The question neither writes a line nor hands out a dependency. -/
def Request.isPlain : Request → Bool
  | .log _ | .provide .. => false
  | _ => true

/-- The question is an info line about a unit that is left out. -/
def World.leavesOut : (World E).Question → Bool
  | .inl (.log entry) => entry.level = .info && entry.event = "runner_skipped"
  | _ => false

namespace Module

/-- The units an allow-list keeps: those whose runners it names. One that names none keeps all. -/
def kept (allowlist : Names) (units : List TestUnit) : List TestUnit :=
  if allowlist.isEmpty then units else units.filter fun unit => allowlist.contains unit.runnerId

/-- A module with these units only and without an allow-list. -/
def narrowedTo (module : Module) (units : List TestUnit) : Module :=
  { module with tests := units, allowlist := .empty }

private theorem kept_nil (allowlist : Names) : kept allowlist [] = [] := by
  by_cases h : allowlist.isEmpty <;> simp [kept, h]

private theorem kept_cons (module : Module) (unit : TestUnit) (rest : List TestUnit) :
    kept module.allowlist (unit :: rest) =
      if module.allows unit then unit :: kept module.allowlist rest
      else kept module.allowlist rest := by
  by_cases h : module.allowlist.isEmpty
  · simp [kept, allows, h]
  · simp [kept, allows, h, List.filter_cons]

private theorem allows_narrowedTo (module : Module) (units : List TestUnit) (unit : TestUnit) :
    (module.narrowedTo units).allows unit = true :=
  rfl

/-- How the run of a module differs from that of the module that has only these units: in lines
about units that are left out. Both hand dependencies to these units only. -/
def leavingOut (units : List TestUnit) : Manner (World E) where
  remark := World.leavesOut
  shared question := World.leavesOut question = false ∧
    ∀ unit dependency, question = .inl (.provide unit dependency) → unit ∈ units
  apart _ h := h.1
  answered question h := by
    rcases question with question | errand
    · cases question with
      | log => exact ⟨()⟩
      | _ => cases h
    · cases h

/-- A plain question is asked by both. -/
theorem shared_request {units : List TestUnit} {question : Request}
    (h : question.isPlain = true) :
    (leavingOut (E := E) units).shared (.inl question) := by
  refine ⟨?_, ?_⟩
  · cases question with
    | log => cases h
    | _ => rfl
  · intro unit dependency hsame
    rw [Sum.inl.inj hsame] at h
    cases h

private theorem shared_errand {units : List TestUnit} (errand : E.Question) :
    (leavingOut units).shared (.inr errand : (World E).Question) :=
  ⟨rfl, fun _ _ h => absurd h Sum.inr_ne_inl⟩

private theorem shared_provide {units : List TestUnit} {unit : TestUnit} (h : unit ∈ units)
    (dependency : Dependency) :
    (leavingOut (E := E) units).shared (.inl (.provide unit dependency)) := by
  refine ⟨rfl, ?_⟩
  intro other _ hsame
  obtain ⟨rfl, -⟩ := Request.provide.inj (Sum.inl.inj hsame)
  exact h

private theorem shared_log {units : List TestUnit} {entry : LogEntry}
    (h : entry.event ≠ "runner_skipped") :
    (leavingOut (E := E) units).shared (.inl (.log entry)) := by
  refine ⟨?_, ?_⟩
  · simp [World.leavesOut, h]
  · intro unit dependency hsame
    cases Sum.inl.inj hsame

/-- The first module has the tests and the allow-list of the original, the second one only the kept
tests; apart from that they are the same. -/
structure Narrows (original whole narrow : Module) : Prop where
  tests : whole.tests = original.tests
  allowlist : whole.allowlist = original.allowlist
  narrow : narrow = whole.narrowedTo (kept original.allowlist original.tests)

private theorem Narrows.allows {original whole narrow : Module} (h : Narrows original whole narrow)
    (unit : TestUnit) : whole.allows unit = original.allows unit := by
  rw [Module.allows, Module.allows, h.allowlist]

/-- Between modules of which one narrows the other, the two computations ask the same, apart from
lines about units that are left out, and leave one module that narrows the other. -/
def Alike {α : Type} (original : Module) (flow other : Flow E Module α) : Prop :=
  ∀ whole narrow, Narrows original whole narrow →
    Flow.Remarks (leavingOut (kept original.allowlist original.tests)) (Narrows original)
      flow other whole narrow

namespace Alike

variable {original : Module} {α β : Type}

private theorem pure (a : α) : Alike (E := E) original (Pure.pure a) (Pure.pure a) :=
  fun _ _ hnarrows => .pure hnarrows a

private theorem throw (thrown : Thrown) :
    Alike (E := E) (α := α) original (MonadExcept.throw thrown) (MonadExcept.throw thrown) :=
  fun _ _ hnarrows => .throw hnarrows thrown

private theorem bind {flow other : Flow E Module α} {f g : α → Flow E Module β}
    (h : Alike original flow other) (hrest : ∀ a, Alike original (f a) (g a)) :
    Alike original (flow >>= f) (other >>= g) :=
  fun whole narrow hnarrows => .bind (h whole narrow hnarrows) hrest

/-- What is looked up in a module without looking at its tests and its allow-list is the same. -/
theorem get_bind {f g : Module → Flow E Module β}
    (hsame : ∀ module units, g (module.narrowedTo units) = g module)
    (hrest : ∀ module, Alike original (f module) (g module)) :
    Alike original (get >>= f) (get >>= g) := by
  intro whole narrow hnarrows
  have hlook : g narrow = g whole := by rw [hnarrows.narrow, hsame]
  refine .get_bind ?_
  rw [hlook]
  exact hrest whole whole narrow hnarrows

/-- A change that neither touches the tests and the allow-list nor looks at them is the same. -/
theorem modify {f : Module → Module} (htests : ∀ module, (f module).tests = module.tests)
    (hallowlist : ∀ module, (f module).allowlist = module.allowlist)
    (hsame : ∀ module units, f (module.narrowedTo units) = (f module).narrowedTo units) :
    Alike (E := E) original (modify f) (modify f) := by
  intro whole narrow hnarrows
  refine .modify ⟨?_, ?_, ?_⟩
  · rw [htests, hnarrows.tests]
  · rw [hallowlist, hnarrows.allowlist]
  · rw [hnarrows.narrow, hsame]

private theorem request {question : Request} (h : question.isPlain = true) :
    Alike (E := E) original (Flow.request question) (Flow.request question) :=
  fun _ _ hnarrows => .request hnarrows (shared_request h)

private theorem log {level : LogLevel} {trace component event message : String}
    (h : event ≠ "runner_skipped") :
    Alike (E := E) original (Flow.log level trace component event message)
      (Flow.log level trace component event message) :=
  fun _ _ hnarrows => .log hnarrows (shared_log h)

private theorem resume (attempted : Except Thrown α) :
    Alike (E := E) original (Flow.resume attempted) (Flow.resume attempted) :=
  fun _ _ hnarrows => .resume hnarrows attempted

private theorem send (outlet : Nat) (event : Event) :
    Alike (E := E) original (Flow.send outlet event) (Flow.send outlet event) :=
  bind (request rfl) resume

private theorem attempt {flow other : Flow E Module α} (h : Alike original flow other) :
    Alike original (Flow.attempt flow) (Flow.attempt other) :=
  fun whole narrow hnarrows => .attempt (h whole narrow hnarrows)

private theorem forM {items : List β} {f g : β → Flow E Module PUnit}
    (h : ∀ item ∈ items, Alike original (f item) (g item)) :
    Alike original (items.forM f) (items.forM g) :=
  fun _ _ hnarrows => .forM hnarrows h

end Alike

section Parts

variable {original : Module}

private theorem alike_log {level : LogLevel} {event message : String}
    (h : event ≠ "runner_skipped") :
    Alike (E := E) original (log level event message) (log level event message) :=
  .get_bind (fun _ _ => rfl) fun _ => .log h

private theorem alike_transition (next : ModuleState) :
    Alike (E := E) original (transition next) (transition next) := by
  refine .get_bind (fun _ _ => rfl) ?_
  intro module
  split
  · exact .modify (fun _ => rfl) (fun _ => rfl) fun _ _ => rfl
  · exact alike_log (by decide)

private theorem alike_settle (origin : String) (category : ErrorCategory) (exit : Exit) :
    Alike (E := E) original (settle origin category exit) (settle origin category exit) := by
  rcases exit with (what | _) | outcome
  · exact .pure _
  · exact .throw _
  · exact .pure _

private theorem alike_setUpOne (preparer : Preparer) (device : Device) (build : Option Build) :
    Alike (E := E) original (setUpOne preparer device build) (setUpOne preparer device build) := by
  rw [setUpOne]
  split
  · exact .bind (alike_log (by decide)) fun _ => .pure _
  · refine .bind (.modify (fun _ => rfl) (fun _ => rfl) fun _ _ => rfl) fun _ => ?_
    refine .bind (.request rfl) fun exit => .bind (alike_settle _ _ exit) ?_
    intro outcome
    cases outcome <;> exact .pure _

private theorem alike_setUpDevice (device : Device) (build : Option Build)
    (preparers : List Preparer) :
    Alike (E := E) original (setUpDevice device build preparers)
      (setUpDevice device build preparers) := by
  induction preparers with
  | nil => exact .pure _
  | cons preparer rest ih =>
    refine .bind (alike_setUpOne preparer device build) ?_
    intro failure
    cases failure with
    | some error => exact .pure _
    | none => exact ih

private theorem alike_setUpDevices (preparers : List (String × List Preparer)) :
    Alike (E := E) original (setUpDevices preparers) (setUpDevices preparers) := by
  induction preparers with
  | nil => exact .pure _
  | cons entry rest ih =>
    obtain ⟨name, preparers⟩ := entry
    refine .get_bind (fun _ _ => rfl) ?_
    intro module
    cases module.resolveDevice name with
    | none => exact .pure _
    | some device =>
      refine .bind (alike_setUpDevice device _ preparers) ?_
      intro failure
      cases failure with
      | some error => exact .pure _
      | none => exact ih

private theorem alike_setUpAll (preparers : List MultiPreparer) :
    Alike (E := E) original (setUpAll preparers) (setUpAll preparers) := by
  induction preparers with
  | nil => exact .pure _
  | cons preparer rest ih =>
    rw [setUpAll]
    split
    · exact ih
    · refine .bind (.modify (fun _ => rfl) (fun _ => rfl) fun _ _ => rfl) fun _ => ?_
      refine .get_bind (fun _ _ => rfl) fun module => ?_
      refine .bind (.request rfl) fun exit => .bind (alike_settle _ _ exit) ?_
      intro outcome
      cases outcome with
      | error error => exact .pure _
      | ok => exact ih

private theorem alike_prepare : Alike (E := E) original prepare prepare := by
  refine .get_bind (fun _ _ => rfl) fun module => .bind (alike_setUpDevices _) ?_
  intro failure
  cases failure with
  | some error => exact .pure _
  | none => exact .get_bind (fun _ _ => rfl) fun module => alike_setUpAll _

private theorem alike_listen (event : Event) :
    Alike (E := E) original (listen event) (listen event) := by
  cases event with
  | testLog name kind data =>
    refine .get_bind (fun _ _ => rfl) fun module => ?_
    cases module.saver with
    | none => exact .send _ _
    | some saver =>
      refine .bind (.request rfl) ?_
      intro saved
      cases saved with
      | error error => exact .log (by decide)
      | ok file => exact .send _ _
  | logSaved name kind data file => exact .send _ _
  | _ => exact .modify (fun _ => rfl) (fun _ => rfl) fun _ _ => rfl

private theorem alike_answerStage (question : StageRequest) :
    Alike (E := E) original (answerStage question) (answerStage question) := by
  cases question with
  | send event => exact alike_listen event
  | wrap => exact .pure _

end Parts

section Units

variable {original : Module} {conducts others : Conducts E}

/-- A kept unit is wired and runs alike. -/
theorem alike_runUnit {unit : TestUnit} (hkept : unit ∈ kept original.allowlist original.tests)
    (hsame : others unit = conducts unit) :
    Alike original (runUnit conducts unit) (runUnit others unit) := by
  rw [runUnit, runUnit, hsame]
  refine .get_bind (fun _ _ => rfl) fun module => ?_
  have hwired : Alike (E := E) original
      ((module.dependencies unit.capabilities).forM fun dependency => do
        Flow.resume (← Flow.request (.provide unit dependency)))
      ((module.dependencies unit.capabilities).forM fun dependency => do
        Flow.resume (← Flow.request (.provide unit dependency))) := by
    refine .forM fun dependency _ => .bind ?_ .resume
    intro whole narrow hnarrows
    exact .request hnarrows (shared_provide hkept dependency)
  have hplayed : Alike original
      (Flow.perform answerStage ((conducts unit).run (module.dependencies unit.capabilities)))
      (Flow.perform answerStage ((conducts unit).run (module.dependencies unit.capabilities))) :=
    fun whole narrow hnarrows => .perform hnarrows alike_answerStage shared_errand _
  exact .bind hwired fun _ => .bind (.attempt hplayed) fun exit => alike_settle _ _ exit

/-- A line about a unit that is left out changes nothing. -/
theorem remarks_skipped {α : Type} {units : List TestUnit} {message : String}
    {flow : Unit → Flow E Module α} {other : Flow E Module α} {whole narrow : Module}
    (h : Flow.Remarks (leavingOut units) (Narrows original) (flow ()) other whole narrow) :
    Flow.Remarks (leavingOut units) (Narrows original)
      (log .info "runner_skipped" message >>= flow) other whole narrow := by
  refine Flow.Remarks.get_bind_left
    (f := fun module => Flow.log .info module.id "module" "runner_skipped" message >>= flow) ?_
  refine Flow.Remarks.log_bind ?_ h
  simp [leavingOut, World.leavesOut]

/-- The kept units run alike one after the other; about the others there are only lines. -/
theorem alike_runUnits {units : List TestUnit}
    (hkept : ∀ unit ∈ kept original.allowlist units,
      unit ∈ kept original.allowlist original.tests ∧ others unit = conducts unit) :
    Alike original (runUnits conducts units)
      (runUnits others (kept original.allowlist units)) := by
  induction units with
  | nil =>
    rw [kept_nil]
    exact .pure _
  | cons unit rest ih =>
    intro whole narrow hnarrows
    have hcons := kept_cons original unit rest
    have hwhole := hnarrows.allows unit
    have hnarrow : narrow.allows unit = true := by
      rw [hnarrows.narrow]
      exact allows_narrowedTo whole _ unit
    by_cases hallows : original.allows unit = true
    -- A unit that is allowed runs in both, so that what follows starts from alike modules again.
    · rw [if_pos hallows] at hcons
      rw [hcons] at hkept ⊢
      obtain ⟨⟨hunit, hsame⟩, hrest⟩ := List.forall_mem_cons.mp hkept
      refine .get_bind ?_
      simp only [hwhole, hallows, hnarrow, Bool.not_true, Bool.false_eq_true, if_false]
      refine .bind (alike_runUnit hunit hsame whole narrow hnarrows) ?_
      intro outcome last following hlast
      cases outcome with
      | ok => exact ih hrest last following hlast
      | error error =>
        have hrecorded : Alike (E := E) original (modify (recordUnitFailure error))
            (modify (recordUnitFailure error)) :=
          .modify (fun _ => rfl) (fun _ => rfl) fun _ _ => rfl
        refine Alike.bind hrecorded (fun _ => ?_) last following hlast
        split
        · exact .bind (alike_log (by decide)) fun _ => .pure _
        · exact .bind (alike_log (by decide)) fun _ => ih hrest
    -- One that is not is no longer among the units of the narrowed module.
    · rw [if_neg hallows] at hcons
      rw [hcons] at hkept ⊢
      have hremark := ih hkept whole narrow hnarrows
      refine .get_bind_left ?_
      simp only [hwhole, hallows, Bool.not_false, if_true]
      exact remarks_skipped hremark

/-- What happens up to the first cleanup is alike. -/
theorem alike_prepareAndRun
    (hsame : ∀ unit ∈ kept original.allowlist original.tests, others unit = conducts unit) :
    Alike original (prepareAndRun conducts) (prepareAndRun others) := by
  refine .bind (alike_transition .preparing) fun _ => .bind alike_prepare ?_
  intro failure
  cases failure with
  | some error =>
    have hrecorded : Alike (E := E) original
        (modify (·.recordSyntheticFailure error "preparationError"))
        (modify (·.recordSyntheticFailure error "preparationError")) :=
      .modify (fun _ => rfl) (fun _ => rfl) fun _ _ => rfl
    exact .bind (alike_log (by decide)) fun _ => .bind hrecorded fun _ => .pure _
  | none =>
    refine .bind (alike_transition .running) ?_
    intro _ whole narrow hnarrows
    have hnarrow : narrow.tests = kept original.allowlist original.tests := by
      rw [hnarrows.narrow, narrowedTo]
    refine .get_bind ?_
    rw [hnarrows.tests, hnarrow]
    exact alike_runUnits (fun unit hunit => ⟨hunit, hsame unit hunit⟩) whole narrow hnarrows

end Units

section Cleanup

variable {original : Module}

private theorem alike_noteTearDown (preparerName : String) (first : Option TaskError)
    (outcome : Outcome) :
    Alike (E := E) original (noteTearDown preparerName first outcome)
      (noteTearDown preparerName first outcome) := by
  cases outcome with
  | ok => exact .pure _
  | error error => exact .bind (alike_log (by decide)) fun _ => .pure _

private theorem alike_tearDownAll (failure first : Option TaskError)
    (preparers : List MultiPreparer) :
    Alike (E := E) original (tearDownAll failure first preparers)
      (tearDownAll failure first preparers) := by
  induction preparers generalizing first with
  | nil => exact .pure _
  | cons preparer rest ih =>
    refine .get_bind (fun _ _ => rfl) fun module => .bind (.request rfl) fun exit => ?_
    refine .bind (alike_settle _ _ exit) fun outcome => ?_
    exact .bind (alike_noteTearDown _ _ outcome) fun first => ih first

private theorem alike_tearDownDevices (failure first : Option TaskError)
    (targets : List PreparedTarget) :
    Alike (E := E) original (tearDownDevices failure first targets)
      (tearDownDevices failure first targets) := by
  induction targets generalizing first with
  | nil => exact .pure _
  | cons target rest ih =>
    rw [tearDownDevices]
    split
    · refine .bind (.request rfl) fun exit => .bind (alike_settle _ _ exit) fun outcome => ?_
      exact .bind (alike_noteTearDown _ _ outcome) fun first => ih first
    · exact ih first

private theorem alike_tearDown (failure : Option TaskError) :
    Alike (E := E) original (tearDown failure) (tearDown failure) := by
  have hforgot : Alike (E := E) original (modify ({ · with prepared := [], preparedMulti := [] }))
      (modify ({ · with prepared := [], preparedMulti := [] })) :=
    .modify (fun _ => rfl) (fun _ => rfl) fun _ _ => rfl
  refine .get_bind (fun _ _ => rfl) fun module => .bind (alike_tearDownAll _ _ _) fun first => ?_
  refine .get_bind (fun _ _ => rfl) fun module => .bind (alike_tearDownDevices _ _ _) ?_
  exact fun first => .bind hforgot fun _ => .pure _

end Cleanup

section Whole

variable {original : Module} {conducts others : Conducts E}

private theorem alike_runPhases (startedAt : Int)
    (hsame : ∀ unit ∈ kept original.allowlist original.tests, others unit = conducts unit) :
    Alike original (runPhases conducts startedAt) (runPhases others startedAt) := by
  refine .bind (alike_prepareAndRun hsame) fun failure => ?_
  refine .bind (alike_transition .tearingDown) fun _ => .bind (alike_tearDown failure) ?_
  intro tearDownFailure
  have hreported : Alike (E := E) original
      (do
        transition .done
        let finishedAt ← Flow.request .clock
        let module ← get
        (module.result.replay module.id (finishedAt - startedAt)).forM (Flow.send 0)
        return outcomeOf failure tearDownFailure)
      (do
        transition .done
        let finishedAt ← Flow.request .clock
        let module ← get
        (module.result.replay module.id (finishedAt - startedAt)).forM (Flow.send 0)
        return outcomeOf failure tearDownFailure) := by
    refine .bind (alike_transition .done) fun _ => .bind (.request rfl) fun finishedAt => ?_
    refine .get_bind (fun _ _ => rfl) fun module => .bind (.forM fun event _ => .send 0 event) ?_
    exact fun _ => .pure _
  cases failure with
  | some => exact hreported
  | none =>
    cases tearDownFailure with
    | none => exact hreported
    | some error =>
      refine .bind (.modify (fun _ => rfl) (fun _ => rfl) fun _ _ => rfl) fun _ => ?_
      exact hreported

private theorem alike_askController : Alike (E := E) original askController askController := by
  refine .get_bind (fun _ _ => rfl) fun module => ?_
  cases module.config.bind (·.controller) with
  | some controller => exact .request rfl
  | none => exact .pure _

private theorem alike_attachDefaultDevice :
    Alike (E := E) original (modify attachDefaultDevice) (modify attachDefaultDevice) := by
  refine .modify ?_ ?_ ?_
  · intro module
    rw [attachDefaultDevice]
    split <;> rfl
  · intro module
    rw [attachDefaultDevice]
    split <;> rfl
  · intro module units
    rw [attachDefaultDevice, attachDefaultDevice, apply_ite (narrowedTo · units)]
    rfl

/-- A module and its narrowed self run alike if the kept units behave alike. -/
theorem alike_run
    (hsame : ∀ unit ∈ kept original.allowlist original.tests, others unit = conducts unit) :
    Alike original (run conducts) (run others) := by
  refine .bind (.request rfl) fun startedAt => .bind (alike_transition _) fun _ => ?_
  refine .bind (.modify (fun _ => rfl) (fun _ => rfl) fun _ _ => rfl) fun _ => ?_
  refine .bind alike_askController fun strategy => ?_
  refine .bind (.modify (fun _ => rfl) (fun _ => rfl) fun _ _ => rfl) fun _ => ?_
  have hphases : Alike original (runPhases conducts startedAt) (runPhases others startedAt) :=
    alike_runPhases startedAt hsame
  cases strategy with
  | fullModuleBypass =>
    refine .get_bind (fun _ _ => rfl) ?_
    intro module
    refine .bind (alike_log (by decide)) fun _ => ?_
    exact .bind (alike_transition _) fun _ => .pure _
  | skipModuleTestcases =>
    refine .get_bind (fun _ _ => rfl) ?_
    intro module
    exact .bind (alike_log (by decide)) fun _ => .bind alike_attachDefaultDevice fun _ => hphases
  | run => exact .bind alike_attachDefaultDevice fun _ => hphases

private theorem narrows_self (module : Module) :
    Narrows module module (module.narrowedTo (kept module.allowlist module.tests)) where
  tests := rfl
  allowlist := rfl
  narrow := rfl

/-- An empty allow-list changes nothing. -/
theorem narrowedTo_of_isEmpty {module : Module} (h : module.allowlist.isEmpty = true) :
    module.narrowedTo (kept module.allowlist module.tests) = module := by
  have hempty : module.allowlist = .empty := by
    refine Names.ext_contains fun name => ?_
    rw [Names.contains, List.isEmpty_iff.mp h, Names.contains, Names.empty]
  rw [kept, if_pos h, narrowedTo, ← hempty]

variable {module : Module}

/-- The conversations of the narrowed module are those of the module without the lines about units
that are left out. -/
theorem ends_narrowedTo_iff
    (hsame : ∀ unit ∈ kept module.allowlist module.tests, others unit = conducts unit)
    {trace : List (Session.Exchange (World E))} {result : Except Thrown Outcome}
    {narrow : Module} :
    (run others).Ends (module.narrowedTo (kept module.allowlist module.tests)) trace result
      narrow ↔
    ∃ whole last, (run conducts).Ends module whole result last ∧
      trace = whole.filter (fun exchange => !World.leavesOut exchange.question) ∧
      narrow = last.narrowedTo (kept module.allowlist module.tests) := by
  have hremarks := alike_run hsame _ _ (narrows_self module)
  constructor
  · intro hends
    obtain ⟨whole, ⟨ended, last⟩, hwhole, hwithout, hended, hlast⟩ := hremarks.exists_path hends
    subst hended
    exact ⟨whole, last, hwhole, hwithout, hlast.narrow⟩
  · rintro ⟨whole, last, hwhole, rfl, rfl⟩
    obtain ⟨⟨ended, narrow⟩, hends, hended, hlast⟩ := hremarks.path_unremarked hwhole
    subst hended
    rw [← hlast.narrow]
    exact hends

/-- With an empty allow-list a module is its own narrowed self, so it leaves no unit out. -/
theorem leavesOut_of_isEmpty (h : module.allowlist.isEmpty = true)
    {trace : List (Session.Exchange (World E))} {result : Except Thrown Outcome} {last : Module}
    (hends : (run conducts).Ends module trace result last) :
    ∀ exchange ∈ trace, World.leavesOut exchange.question = false := by
  rw [← narrowedTo_of_isEmpty h, ends_narrowedTo_iff fun _ _ => rfl] at hends
  obtain ⟨whole, -, -, rfl, -⟩ := hends
  intro exchange hexchange
  simpa using (List.mem_filter.mp hexchange).2

/-- An allow-list is a filter: a module runs as the module that has only the kept units and no
allow-list, where the units that are left out may be anything. It asks the same in the same order,
what units ask on their errands included, apart from info lines about units that are left out; it
ends alike; and what becomes of it is the same but for the units and the allow-list, which stay what
they were. No unit that is left out is handed anything. An empty allow-list leaves no unit out. -/
theorem run_filtered_by_allowlist (module : Module) (conducts others : Conducts E)
    (hsame : ∀ unit ∈ kept module.allowlist module.tests, others unit = conducts unit) :
    (∀ trace result narrow,
      (run others).Ends (module.narrowedTo (kept module.allowlist module.tests)) trace result
        narrow ↔
      ∃ whole last, (run conducts).Ends module whole result last ∧
        trace = whole.filter (fun exchange => !World.leavesOut exchange.question) ∧
        narrow = last.narrowedTo (kept module.allowlist module.tests)) ∧
    ∀ whole result last, (run conducts).Ends module whole result last →
      last.tests = module.tests ∧ last.allowlist = module.allowlist ∧
      (∀ exchange ∈ whole, ∀ unit dependency,
        exchange.question = .inl (.provide unit dependency) →
        unit ∈ kept module.allowlist module.tests) ∧
      (module.allowlist.isEmpty = true →
        ∀ exchange ∈ whole, World.leavesOut exchange.question = false) := by
  refine ⟨fun _ _ _ => ends_narrowedTo_iff hsame, ?_⟩
  intro whole result last hends
  have hremarks := alike_run hsame _ _ (narrows_self module)
  obtain ⟨_, _, _, hlast⟩ := hremarks.path_unremarked hends
  refine ⟨hlast.tests, hlast.allowlist, ?_, fun hempty => leavesOut_of_isEmpty hempty hends⟩
  intro exchange hexchange unit dependency hprovide
  rcases hremarks.asks hends exchange hexchange with hremark | hshared
  · rw [hprovide] at hremark
    cases hremark
  · exact hshared.2 unit dependency hprovide

end Whole

/-- A module of three units whose allow-list names the runner of two. -/
def shortlist : Module :=
  { suite with
    tests := [.plain 0 "call" [], .plain 1 "soak" [], .plain 2 "call" []]
    allowlist := .ofList ["call"] }

/-- The unit in the middle would lose its device if it ran. -/
def soaking (unit : TestUnit) : Conduct .silent :=
  .telling [] (.ok (if unit.name = "soak" then .error { category := .deviceNotAvailable }
    else .ok ()))

/-- The unit that is left out would lose its device; without it the module runs as one that has only
the other two. -/
theorem run_filtered_by_allowlist_shortlist :
    let called : List TestUnit := [.plain 0 "call" [], .plain 2 "call" []]
    let calling : Conducts .silent := fun _ => .telling [] (.ok (.ok ()))
    let (whole, exit, last) :=
      shortlist.staged soaking (fun _ => .ok (.ok ())) fun _ => .ok (.ok ())
    (∀ unit ∈ called, calling unit = soaking unit) ∧
      (run calling).Ends (shortlist.narrowedTo called)
        (whole.filter fun exchange => !World.leavesOut exchange.question) exit
        (last.narrowedTo called) ∧
      ∃ exchange ∈ whole, World.leavesOut exchange.question = true := by
  have hkept : kept shortlist.allowlist shortlist.tests =
      [.plain 0 "call" [], .plain 2 "call" []] := by
    decide
  have hsame : ∀ unit ∈ [TestUnit.plain 0 "call" [], .plain 2 "call" []],
      (Conduct.telling [] (.ok (.ok ())) : Conduct .silent) = soaking unit := by
    simp [soaking, TestUnit.plain]
  have hfiltered := (run_filtered_by_allowlist shortlist soaking
    (fun _ => .telling [] (.ok (.ok ()))) (by rw [hkept]; exact hsame)).1
  refine ⟨hsame, ?_, ?_⟩
  · rw [hkept] at hfiltered
    have hends := ends_staged shortlist soaking (fun _ => .ok (.ok ())) fun _ => .ok (.ok ())
    exact (hfiltered _ _ _).mpr ⟨_, _, hends, rfl, rfl⟩
  · exact ⟨_, List.mem_of_getElem? (i := 5) rfl, rfl⟩

end Module

end Fleet
