import Fleet.Module.Performance
import Fleet.Proofs.Dealings
import Fleet.Proofs.Module.Course

/-!
# Modules on stage

A module that runs as a unit has the conversations it has on its own, exchange by exchange: what it
hands to a listener it reports on stage, and everything else becomes an errand.
-/

namespace Fleet

open Performance (told)

variable {E F : Interface} {α : Type}

/-- The errand that is run. -/
def Deed.errand? : Deed E → Option (Session.Exchange E)
  | .errand exchange => some exchange
  | _ => none

private theorem Session.dealings_eq_filterMap {trace : List (Exchange (World E))} :
    dealings trace = (deeds trace).filterMap Deed.errand? := by
  rw [deeds, List.filterMap_filterMap]
  refine List.filterMap_congr fun exchange _ => ?_
  obtain ⟨question | errand, answer⟩ := exchange
  · cases question <;> rfl
  · rfl

private theorem Relayed.errandless {saver : Option Nat} {sending : Sending} {deeds : List (Deed E)}
    (h : Relayed saver sending deeds) : deeds.filterMap Deed.errand? = [] := by
  cases h <;> rfl

/-- What units deal in while they play is what is dealt in. -/
theorem Relays.dealings {saver : Option Nat} {played : List (Session.Exchange (stage.sum E))}
    {deeds : List (Deed E)} (h : Relays saver played deeds) :
    deeds.filterMap Deed.errand? = Session.dealings played := by
  induction h with
  | done => rfl
  | sent hrelayed _ ih =>
    rw [List.filterMap_append, hrelayed.errandless]
    exact ih
  | wrapped _ ih => exact ih
  | errand _ ih => exact congrArg (_ :: ·) ih

/-- In a course only the units run errands. -/
theorem Course.Tells.dealings {conducts : Conducts E} {ready : Module} {course : Course E}
    {trace : List (Session.Exchange (World E))} (h : course.Tells conducts ready trace) :
    Session.dealings trace = Session.dealings (course.runs.flatMap (·.played)) := by
  have hsilent {β : Type} (items : List β) :
      items.filterMap (fun _ => (none : Option (Session.Exchange E))) = [] :=
    List.filterMap_eq_nil_iff.mpr fun _ _ => rfl
  rw [Session.dealings_eq_filterMap, h.deeds, ← h.relays.dealings, Course.deeds]
  simp [hsilent, List.filterMap_append, List.filterMap_map, Function.comp_def, Deed.errand?]

namespace Module

/-- How an exchange of a module is had on stage. -/
def onStageAs : Session.Exchange (World (World F)) → Session.Exchange (stage.sum (World F))
  | ⟨.inl (.send _ event), answer⟩ => ⟨.inl (.send event), answer⟩
  | ⟨.inl question, answer⟩ => ⟨.inr (.inl question), answer⟩
  | ⟨.inr errand, answer⟩ => ⟨.inr errand, answer⟩

variable {session : Work (World F) α} {played : List (Session.Exchange (stage.sum (World F)))}
  {trace : List (Session.Exchange (World (World F)))} {result : α}

/-- What is said on stage is a conversation of the module. -/
theorem path_onStage (h : (onStage session).Path played result) :
    ∃ trace, session.Path trace result ∧ played = trace.map onStageAs := by
  induction session generalizing played with
  | done a =>
    obtain ⟨rfl, rfl⟩ := Session.path_done.mp h
    exact ⟨[], .done _, rfl⟩
  | ask question next ih =>
    obtain ⟨answer, before, after, rfl, hasked, hrest⟩ := Session.path_seq.mp h
    obtain ⟨trace, hpath, rfl⟩ := ih answer hrest
    refine ⟨⟨question, answer⟩ :: trace, .ask hpath, ?_⟩
    rw [List.map_cons, ← List.singleton_append]
    congr 1
    rcases question with question | errand
    · cases question <;>
      · obtain ⟨_, _, rfl, hdone⟩ := Session.path_ask.mp hasked
        obtain ⟨rfl, rfl⟩ := Session.path_done.mp hdone
        rfl
    · obtain ⟨_, _, rfl, hdone⟩ := Session.path_ask.mp hasked
      obtain ⟨rfl, rfl⟩ := Session.path_done.mp hdone
      rfl

/-- A module puts no collector in front of its listener. -/
theorem plain_onStage : Performance.Plain (onStage session) := by
  induction session with
  | done => trivial
  | ask question next ih =>
    rcases question with question | errand
    · cases question <;> exact fun answer => ih answer
    · exact fun answer => ih answer

/-- What is told on a stage is what is sent behind it. -/
theorem told_onStageAs : told (trace.map onStageAs) = Session.sent trace := by
  induction trace with
  | nil => rfl
  | cons exchange rest ih =>
    obtain ⟨question | errand, answer⟩ := exchange
    · cases question with
      | send outlet event => exact congrArg (event :: ·) ih
      | _ => exact ih
    · exact ih

/-- An errand on stage is one of a unit, or the module asks the outside for something. -/
theorem mem_dealings_onStageAs {dealt : Session.Exchange (World F)}
    (h : dealt ∈ Session.dealings (trace.map onStageAs)) :
    dealt ∈ Session.dealings trace ∨ ∃ question : Request,
      dealt.question = .inl question ∧ ∀ outlet event, question ≠ .send outlet event := by
  obtain ⟨exchange, hexchange, hdealt⟩ := List.mem_filterMap.mp h
  obtain ⟨⟨question | errand, answer⟩, hasked, rfl⟩ := List.mem_map.mp hexchange
  · cases question with
    | send => cases hdealt
    | _ =>
      obtain rfl := Option.some.inj hdealt
      exact .inr ⟨_, rfl, fun _ _ hsend => by cases hsend⟩
  · exact .inl (List.mem_filterMap.mpr ⟨_, hasked, hdealt⟩)

end Module

end Fleet
