import Fleet.Proofs.Crew.Exhaustion

/-!
# Careers

A poller takes its steps one after the other; what the others do in between it sees in the floor
only, which may be any other one the next time. A career is all a poller does and says, step by
step, in whatever company.
-/

namespace Fleet

variable {E : Interface}

/-- One step of a poller, with the station before it and after it and what is said in it. -/
structure Stint (E : Interface) where
  before : Station
  said : List (Session.Exchange (World E))
  after : Station

/-- From its first state the poller comes to its last one by these steps. -/
inductive Poller.Career (conducts : Conducts E) : Poller → List (Stint E) → Poller → Prop where
  | rest {poller : Poller} : Career conducts poller [] poller
  | goesOn {before after : Station} {said : List (Session.Exchange (World E))}
      {stints : List (Stint E)} {last : Poller} (hformed : before.floor.pool.WellFormed)
      (hstep : (before.step conducts).Path said after)
      (hlater : Career conducts after.poller stints last) :
      Career conducts before.poller (⟨before, said, after⟩ :: stints) last

/-- What is said in a career. -/
def Stint.conversation (stints : List (Stint E)) : List (Session.Exchange (World E)) :=
  stints.flatMap Stint.said

namespace Poller

variable {conducts : Conducts E} {poller last : Poller} {stints : List (Stint E)}

/-- Every step of a career is one of the poller with its resources, on some well-formed floor. -/
theorem Career.step_of_mem (h : poller.Career conducts stints last) {stint : Stint E}
    (hmem : stint ∈ stints) :
    stint.before.floor.pool.WellFormed ∧ stint.before.poller.resources = poller.resources ∧
      (stint.before.step conducts).Path stint.said stint.after := by
  induction h with
  | rest => cases hmem
  | goesOn hformed hstep _ ih =>
    rcases List.mem_cons.mp hmem with rfl | hmem
    · exact ⟨hformed, rfl, hstep⟩
    · obtain ⟨hlater, hresources, hpath⟩ := ih hmem
      exact ⟨hlater, hresources.trans (Station.move_of_step hformed hstep).resources_eq, hpath⟩

/-- A career goes on before and after each of its steps. -/
theorem Career.split {index : Nat} {stint : Stint E} (h : poller.Career conducts stints last)
    (hstint : stints[index]? = some stint) :
    poller.Career conducts (stints.take index ++ stint :: stints.drop (index + 1)) last := by
  obtain ⟨hindex, rfl⟩ := List.getElem?_eq_some_iff.mp hstint
  rwa [List.getElem_cons_drop, List.take_append_drop]

end Poller

/-- The steps a poller takes if this is how many pollers run at each of them, and what it comes
to. -/
def Station.career (conducts : Conducts E)
    (answer : (question : (World E).Question) → (World E).Answer question) :
    List Int → Station → List (Stint E) × Poller
  | [], station => ([], station.poller)
  | running :: later, station =>
    let before := { station with floor := { station.floor with running } }
    let (said, after) := (before.step conducts).converse answer
    let (stints, last) := after.career conducts answer later
    (⟨before, said, after⟩ :: stints, last)

/-- A career that is played out is a career. -/
theorem Station.career_career {conducts : Conducts E}
    {answer : (question : (World E).Question) → (World E).Answer question} {counts : List Int}
    {station : Station} (hformed : station.floor.pool.WellFormed) :
    station.poller.Career conducts (station.career conducts answer counts).1
      (station.career conducts answer counts).2 := by
  induction counts generalizing station with
  | nil => exact .rest
  | cons running later ih =>
    let before := { station with floor := { station.floor with running } }
    have hbefore : before.floor.pool.WellFormed := hformed
    have hstep := Session.path_converse answer (before.step conducts)
    exact .goesOn hbefore hstep (ih ((Station.move_of_step hbefore hstep).formed hbefore))

/-- However a crew plays, each of its pollers has a career, of which everybody hears all that is
said. -/
theorem Crew.exists_career {conducts : Conducts E} {crew last : Crew} {schedule : List Nat}
    {trace : List (Session.Exchange (World E))} (hformed : crew.floor.pool.WellFormed)
    (hplay : (crew.play conducts schedule).Path trace last) {index : Nat} {poller : Poller}
    (hpoller : crew.pollers[index]? = some poller) :
    ∃ stints final, poller.Career conducts stints final ∧ last.pollers[index]? = some final ∧
      (Stint.conversation stints).Sublist trace := by
  induction schedule generalizing crew trace poller with
  | nil =>
    obtain ⟨rfl, rfl⟩ := Session.path_pure.mp hplay
    exact ⟨[], poller, .rest, hpoller, List.nil_sublist _⟩
  | cons turning schedule ih =>
    obtain ⟨next, before, after, rfl, hstep, hrest⟩ := Session.path_seq.mp hplay
    cases hturning : crew.pollers[turning]? with
    | none =>
      rw [step, hturning] at hstep
      obtain ⟨rfl, rfl⟩ := Session.path_pure.mp hstep
      exact ih hformed hrest hpoller
    | some mover =>
      obtain ⟨station, hmoved, rfl⟩ := path_step hturning hstep
      have hmove := Station.move_of_step hformed hmoved
      have hlater := hmove.formed hformed
      have htakes : crew.Takes conducts before
          { index := turning
            before := { poller := mover, floor := crew.floor }
            after := station } :=
        ⟨hturning, rfl, hmove⟩
      have hnext := htakes.getElem?_after index
      by_cases hindex : index = turning
      · subst hindex
        obtain rfl := Option.some.inj (hpoller.symm.trans hturning)
        rw [if_pos rfl] at hnext
        obtain ⟨stints, final, hcareer, hfinal, hsaid⟩ := ih hlater hrest hnext
        exact ⟨_, final, .goesOn hformed hmoved hcareer, hfinal,
          (List.Sublist.refl before).append hsaid⟩
      · rw [if_neg hindex, hpoller] at hnext
        obtain ⟨stints, final, hcareer, hfinal, hsaid⟩ := ih hlater hrest hnext
        exact ⟨stints, final, hcareer, hfinal, hsaid.trans (List.sublist_append_right _ _)⟩

end Fleet
