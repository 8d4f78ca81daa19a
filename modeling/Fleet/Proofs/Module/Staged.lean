import Fleet.Proofs.Module.Course

/-!
# Runs that go as told

An outside in which setting up and cleaning up end as told and everything else goes well, and units
that tell some events and end as told. What a module does among them is an orderly and calm
conversation, in which nobody asks for a bypass.
-/

namespace Fleet

variable {E : Interface}

/-- The answers of an outside where setting up and cleaning up end as told and everything else goes
well. -/
def Request.going (setUps tearDowns : Target → Exit) : (question : Request) → question.Answer
  | .setUp preparer device build => setUps (.device preparer device build)
  | .setUpAll preparer context => setUps (.all preparer context)
  | .tearDown preparer device build _ => tearDowns (.device preparer device build)
  | .tearDownAll preparer context _ => tearDowns (.all preparer context)
  | question => question.obliging fun _ _ => true

/-- A unit that tells some events and then ends as told, unless its listener throws. -/
def Conduct.telling (events : List Event) (exit : Exit) : Conduct E where
  options := .ok []
  run _ := do
    match ← Performance.sendAll events with
    | .ok () => return exit
    | .error thrown => return .error thrown
  reportNotExecuted _ := return .ok ()

private theorem Performance.path_sendAll {events : List Event}
    {played : List (Session.Exchange (stage.sum E))} {result : Except Thrown Unit}
    (h : (Performance.sendAll events).Path played result) (horderly : Performance.Orderly played) :
    result ≠ .error .other := by
  induction events generalizing played with
  | nil =>
    obtain ⟨rfl, rfl⟩ := Session.path_pure.mp h
    nofun
  | cons event rest ih =>
    obtain ⟨answer, later, rfl, hlater⟩ := Session.path_ask.mp h
    obtain ⟨hanswer, hrest⟩ := List.forall_mem_cons.mp horderly
    cases answer with
    | ok => exact ih hlater hrest
    | error thrown =>
      obtain ⟨rfl, rfl⟩ := Session.path_pure.mp hlater
      exact hanswer

/-- A unit that tells its events and ends in a standard way is orderly. -/
theorem Conduct.orderly_telling {events : List Event} {exit : Exit} (h : exit ≠ .error .other) :
    (Conduct.telling events exit : Conduct E).Orderly := by
  intro received played ended hpath horderly
  obtain ⟨sent, before, after, rfl, hsent, hended⟩ := Session.path_seq.mp hpath
  have hbefore := Performance.path_sendAll hsent (List.forall_mem_append.mp horderly).1
  cases sent with
  | ok =>
    obtain ⟨-, rfl⟩ := Session.path_pure.mp hended
    exact h
  | error thrown =>
    obtain ⟨-, rfl⟩ := Session.path_pure.mp hended
    intro hthrown
    cases hthrown
    exact hbefore rfl

namespace Module

variable (module : Module) (conducts : Conducts .silent) (setUps tearDowns : Target → Exit)

/-- The conversation of a module's run in which setting up and cleaning up end as told, and what
becomes of the module in it. -/
def staged : List (Session.Exchange (World .silent)) × (Exit × Module) :=
  ((run conducts).run.run module).converse fun
    | .inl question => question.going setUps tearDowns
    | .inr errand => Interface.silence errand

/-- A staged run is a run. -/
theorem ends_staged :
    (run conducts).Ends module (module.staged conducts setUps tearDowns).1
      (module.staged conducts setUps tearDowns).2.1
      (module.staged conducts setUps tearDowns).2.2 :=
  Session.path_converse _ _

/-- Nobody throws in a staged run but units and preparers. -/
theorem calm_staged : Session.Calm (module.staged conducts setUps tearDowns).1 := by
  refine Session.forall_mem_converse ?_ _
  rintro (question | errand)
  · cases question <;> first | rfl | trivial
  · cases errand

/-- A staged run is orderly if the preparers end in a standard way. -/
theorem orderly_staged (hsetUps : ∀ target, setUps target ≠ .error .other)
    (htearDowns : ∀ target, tearDowns target ≠ .error .other) :
    Session.Orderly (module.staged conducts setUps tearDowns).1 := by
  refine Session.forall_mem_converse ?_ _
  rintro (question | errand)
  · cases question with
    | setUp | setUpAll => exact hsetUps _
    | tearDown | tearDownAll => exact htearDowns _
    | send | collectorInit => exact nofun
    | provide => rfl
    | _ => trivial
  · cases errand

/-- What holds of all that can be done there holds of all that is done. -/
theorem forall_deeds_staged {P : Deed .silent → Prop}
    (h : ∀ (question : Request) (deed : Deed .silent),
      question.deed? (question.going setUps tearDowns) = some deed → P deed) :
    ∀ deed ∈ Session.deeds (module.staged conducts setUps tearDowns).1, P deed := by
  intro deed hdone
  obtain ⟨exchange, hexchange, hdeed⟩ := List.mem_filterMap.mp hdone
  refine Session.forall_mem_converse (P := fun exchange => exchange.deed? = some deed → P deed)
    ?_ _ exchange hexchange hdeed
  rintro (question | errand)
  · exact h question deed
  · cases errand

/-- Whoever decides there has the module run. -/
theorem decided_staged {strategy : RunStrategy}
    (h : .decided strategy ∈ Session.deeds (module.staged conducts setUps tearDowns).1) :
    strategy = .run := by
  refine forall_deeds_staged module conducts setUps tearDowns
    (P := fun deed => ∀ other, deed = .decided other → other = .run)
    (fun question deed hdeed other hother => ?_) _ h strategy rfl
  subst hother
  cases question <;> cases hdeed
  rfl

/-- What is set up there ends as told. -/
theorem setUp_staged {call : SetUp}
    (h : .setUp call ∈ Session.deeds (module.staged conducts setUps tearDowns).1) :
    call.exit = setUps call.target := by
  refine forall_deeds_staged module conducts setUps tearDowns
    (P := fun deed => ∀ other, deed = .setUp other → other.exit = setUps other.target)
    (fun question deed hdeed other hother => ?_) _ h call rfl
  subst hother
  cases question <;> cases hdeed <;> rfl

/-- What is cleaned up there ends as told. -/
theorem tornDown_staged {call : TearDown}
    (h : .tornDown call ∈ Session.deeds (module.staged conducts setUps tearDowns).1) :
    call.exit = tearDowns call.target := by
  refine forall_deeds_staged module conducts setUps tearDowns
    (P := fun deed => ∀ other, deed = .tornDown other → other.exit = tearDowns other.target)
    (fun question deed hdeed other hother => ?_) _ h call rfl
  subst hother
  cases question <;> cases hdeed <;> rfl

/-- A module of one unit, for a device that three preparers set up. All but the second of them clean
it up. -/
def suite : Module :=
  { create "suite" [.plain 0 "unit" []]
      [("device",
        [{ id := 0, name := "flash", cleaner := true }, { id := 1, name := "reboot" },
         { id := 2, name := "wifi", cleaner := true }])]
      [{ id := 3, name := "relay" }] none with
    device := some { serial := "d1" } }

/-- The suite has not been run before. -/
theorem fresh_suite : suite.Fresh :=
  (fresh_create _ _ _ _ _).receive (.device (some { serial := "d1" }))

/-- Everything succeeds but for the target of one name. -/
def failingAt (name : String) (error : TaskError) (target : Target) : Exit :=
  .ok (if target.name = name then .error error else .ok ())

end Module

end Fleet
