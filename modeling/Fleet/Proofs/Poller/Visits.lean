import Fleet.Proofs.Poller.Containment

/-!
# Visits

From the look into the pool that finds a unit to the next look, a poller visits the unit. It hands
the unit its dependencies, then validates its options, and then it either drops the unit or, if the
unit wires collectors itself, hands it these and runs it once.
-/

namespace Fleet

variable {E : Interface}

namespace UnitOption

/-- The option keeps its unit from running: it is mandatory but has no value, or it has a value that
its check refuses. -/
inductive Faulty (option : UnitOption) : Prop
  | missing (hmandatory : option.mandatory = true) (hvalue : option.value = none)
  | refused {value : String} {check : String → Except Thrown Bool}
      (hvalue : option.value = some value) (hcheck : option.check = some check)
      (hrefused : check value = .ok false)

variable {option : UnitOption} {options : List UnitOption} {scope unitName : String}
  {fault : Option TaskError}

end UnitOption

/-- One of the options of the unit keeps it from running. -/
def Conduct.Unfit (conduct : Conduct E) : Prop :=
  ∃ options, conduct.options = .ok options ∧ ∃ option ∈ options, option.Faulty

/-- What is said from one look into the pool to the next. -/
structure Visit (E : Interface) where
  unit : TestUnit
  /-- What is asked to find the unit. -/
  sought : List (Session.Exchange (World E))
  /-- What is said until the outcome of the validation of its options is noted. -/
  wired : List (Session.Exchange (World E))
  /-- What is said from then on if the unit is run. -/
  served : Option (List (Session.Exchange (World E)))

namespace Visit

/-- All that is said in a visit. -/
def said (visit : Visit E) : List (Session.Exchange (World E)) :=
  visit.sought ++ visit.wired ++ visit.served.getD []

/-- Whether the unit is run. -/
def runs (visit : Visit E) : Bool :=
  visit.served.isSome

/-- What is said to hand a unit all its dependencies, if it takes each of them. -/
def handed (resources : Resources) (unit : TestUnit) : List (Session.Exchange (World E)) :=
  (resources.dependencies unit.capabilities).map fun dependency =>
    ⟨.inl (.provide unit dependency), .ok ()⟩

/-- What is noted about the validation of the options, by whether they pass. -/
inductive Noted : Bool → List (Session.Exchange (World E)) → Prop
  | passed {said : List (Session.Exchange (World E))}
      (hsaid : ∀ exchange ∈ said, World.Misstep exchange.question) : Noted true said
  | refused {entry : LogEntry} {said : List (Session.Exchange (World E))}
      (hevent : entry.event = "validation_failed")
      (hsaid : ∀ exchange ∈ said, World.Misstep exchange.question) :
      Noted false (⟨.inl (.log entry), ()⟩ :: said)

/-- The unit is handed all its dependencies before the outcome of its validation is noted. -/
structure Wires (resources : Resources) (unit : TestUnit) (passes : Bool)
    (moved noted : List (Session.Exchange (World E))) (said : List (Session.Exchange (World E))) :
    Prop where
  said : said = moved ++ handed resources unit ++ noted
  moved : ∀ exchange ∈ moved, World.Misstep exchange.question
  noted : Noted passes noted

/-- The unit is run once, right after it has been handed its collectors, if it takes any. -/
structure Serves (conducts : Conducts E) (resources : Resources) (unit : TestUnit)
    (handover run rest : List (Session.Exchange (World E))) (ended : Except Thrown Outcome) :
    Prop where
  handed : handover =
    if unit.capabilities.collectors then Poller.handover resources unit (.ok ()) else []
  played : ((conducts unit).run (resources.received unit.capabilities)).PlayedIn run ended
  uneventful : Session.Uneventful rest
  unwired : Session.wirings (run ++ rest) = []

/-- The unit was visited as it should be. -/
structure Made (conducts : Conducts E) (resources : Resources) (visit : Visit E) : Prop where
  sought : ∀ exchange ∈ visit.sought, World.Inquiring exchange.question
  wired : ∃ moved noted, Wires resources visit.unit visit.runs moved noted visit.wired
  dropped : visit.runs = false ↔ (conducts visit.unit).Unfit
  served : ∀ said, visit.served = some said → ∃ handover run rest ended,
    said = handover ++ run ++ rest ∧
      Serves conducts resources visit.unit handover run rest ended

end Visit

namespace Session

variable {trace : List (Exchange (World E))}

/-- No unit shows where one only inquires. -/
theorem uneventful_of_inquiring (h : ∀ exchange ∈ trace, World.Inquiring exchange.question) :
    Uneventful trace :=
  uneventful_of_routine fun exchange hexchange => (h exchange hexchange).quiet.routine

end Session

namespace Station

variable {conducts : Conducts E} {first last : Station} {unit : TestUnit}
  {said : List (Session.Exchange (World E))} {result : Except Thrown Phase}

end Station

namespace Visit

variable {conducts : Conducts E} {resources : Resources} {visit : Visit E}
  {said : List (Session.Exchange (World E))}

/-- The visit with what is said later about the device. -/
def prolong (said : List (Session.Exchange (World E))) (visit : Visit E) : Visit E :=
  { visit with served := visit.served.map (· ++ said) }

/-- To prolong a visit does not make its unit run. -/
theorem runs_prolong : (visit.prolong said).runs = visit.runs :=
  Option.isSome_map ..

/-- To look after the device is no more than an aside in a visit. -/
theorem Made.prolong (h : visit.Made conducts resources)
    (hsaid : ∀ exchange ∈ said, World.Tending exchange.question) :
    (visit.prolong said).Made conducts resources where
  sought := h.sought
  wired := by
    rw [runs_prolong]
    exact h.wired
  dropped := by
    rw [runs_prolong]
    exact h.dropped
  served later hlater := by
    obtain ⟨served, hserved, rfl⟩ := Option.map_eq_some_iff.mp hlater
    obtain ⟨handover, run, rest, ended, rfl, hserves⟩ := h.served served hserved
    refine ⟨handover, run, rest ++ said, ended, by simp only [List.append_assoc], ?_⟩
    have huneventful := Session.uneventful_of_routine fun exchange hexchange =>
      (hsaid exchange hexchange).quiet.routine
    have hunwired := Session.wirings_eq_nil fun exchange hexchange =>
      (hsaid exchange hexchange).unwiring
    refine ⟨hserves.handed, hserves.played, hserves.uneventful.append huneventful, ?_⟩
    rw [← List.append_assoc, Session.wirings_append, hserves.unwired, hunwired]
    rfl

variable {visits : List (Visit E)} {unit : TestUnit}

private theorem Noted.uneventful {passes : Bool} (h : Noted passes said) :
    Session.Uneventful said := by
  cases h with
  | passed hsaid =>
    exact Session.uneventful_of_inquiring fun exchange hexchange =>
      (hsaid exchange hexchange).inquiring
  | @refused entry _ hevent hsaid =>
    have hnoted : entry.event ≠ unreportableEvent := hevent ▸ by decide
    exact (Session.uneventful_log hnoted).append (Session.uneventful_of_inquiring
      fun exchange hexchange => (hsaid exchange hexchange).inquiring)

private theorem uneventful_handed {unit : TestUnit} :
    Session.Uneventful (handed (E := E) resources unit) := by
  refine Session.uneventful_of_routine fun exchange hexchange => ?_
  obtain ⟨dependency, -, rfl⟩ := List.mem_map.mp hexchange
  exact trivial

private theorem Made.uneventful_wired (h : visit.Made conducts resources) :
    Session.Uneventful visit.wired := by
  obtain ⟨moved, noted, hsaid, hmoved, hnoted⟩ := h.wired
  rw [hsaid]
  refine (Session.Uneventful.append ?_ uneventful_handed).append hnoted.uneventful
  exact Session.uneventful_of_inquiring fun exchange hexchange =>
    (hmoved exchange hexchange).inquiring

/-- A unit that announces its calls announces one run if it is run, and no other call. -/
theorem Made.calls (h : visit.Made conducts resources) {announced : E.Question → Option UnitCall}
    (hannounces : (conducts visit.unit).Announces announced visit.unit) :
    (Session.errands visit.said).filterMap announced =
      if visit.runs then [.run visit.unit] else [] := by
  have hsought := Session.uneventful_of_inquiring h.sought
  have hwired := h.uneventful_wired
  rw [said, Session.errands_append, (hsought.append hwired).errands, List.nil_append, runs]
  cases hserved : visit.served with
  | none => rfl
  | some served =>
    obtain ⟨handover, run, rest, ended, rfl, hserves⟩ := h.served served hserved
    obtain ⟨played, hplayed, herrands, -, -⟩ := hserves.played
    have hhandover : Session.Uneventful handover := by
      rw [hserves.handed]
      exact Poller.uneventful_handover
    rw [Option.getD_some, Session.errands_append, Session.errands_append, hhandover.errands,
      hserves.uneventful.errands, List.nil_append, List.append_nil, herrands]
    exact hannounces.run _ _ _ hplayed

end Visit

end Fleet
