import Fleet.Proofs.Asking
import Fleet.Proofs.Module.Deeds

/-!
# What is no deed

Between its deeds a module writes log lines, moves its lifecycle, makes errors of standard
exceptions and wires its units. None of this is a deed, and what follows goes on from the same
module, but for its lifecycle.
-/

namespace Fleet

variable {E : Interface}

/-- The outcome with a given failure, or without one. -/
def Outcome.ofFailure : Option TaskError → Outcome
  | none => .ok ()
  | some error => .error error

/-- Nothing that counts is done in the conversation, and no unit is handed anything. -/
structure Session.Idling (trace : List (Session.Exchange (World E))) : Prop where
  deeds : Session.deeds trace = []
  wirings : Session.wirings trace = []

/-- To say nothing is to idle. -/
theorem Session.idling_nil : Session.Idling ([] : List (Session.Exchange (World E))) :=
  ⟨rfl, rfl⟩

namespace Module

variable {α : Type} {first last : Module} {trace : List (Session.Exchange (World E))}
  {result : Except Thrown α} {f : Unit → Flow E Module α}

private theorem ends_log {level : LogLevel} {event message : String} {result : Except Thrown Unit}
    (h : (log level event message).Ends first trace result last) :
    Session.Idling trace ∧ result = .ok () ∧ last = first := by
  obtain ⟨⟨⟩, hlogged, rfl, rfl⟩ := Flow.ends_work.mp h
  obtain rfl := Flow.path_request.mp hlogged
  exact ⟨⟨rfl, rfl⟩, rfl, rfl⟩

/-- What follows a log line goes on after idling. -/
theorem ends_log_bind {level : LogLevel} {event message : String}
    (h : (log level event message >>= f).Ends first trace result last) :
    ∃ before after, trace = before ++ after ∧ Session.Idling before ∧
      (f ()).Ends first after result last := by
  rcases Flow.ends_bind.mp h with ⟨thrown, hthrown, -⟩ | ⟨⟨⟩, before, after, mid, rfl, hlog, hrest⟩
  · obtain ⟨-, hnot, -⟩ := ends_log hthrown
    cases hnot
  · obtain ⟨hbefore, -, rfl⟩ := ends_log hlog
    exact ⟨before, after, rfl, hbefore, hrest⟩

private theorem ends_transition {next : ModuleState} {result : Except Thrown Unit}
    (h : (transition next).Ends first trace result last) :
    Session.Idling trace ∧ result = .ok () ∧ ∃ lifecycle, last = { first with lifecycle } := by
  rw [transition, Flow.ends_get_bind] at h
  split at h
  · obtain ⟨rfl, rfl, rfl⟩ := Flow.ends_modify.mp h
    exact ⟨Session.idling_nil, rfl, _, rfl⟩
  · obtain ⟨htrace, rfl, rfl⟩ := ends_log h
    exact ⟨htrace, rfl, _, rfl⟩

/-- What follows a step of the lifecycle goes on after idling, with nothing changed but the
lifecycle. -/
theorem ends_transition_bind {next : ModuleState}
    (h : (transition next >>= f).Ends first trace result last) :
    ∃ before after lifecycle, trace = before ++ after ∧ Session.Idling before ∧
      (f ()).Ends { first with lifecycle } after result last := by
  rcases Flow.ends_bind.mp h with
    ⟨thrown, hthrown, -⟩ | ⟨⟨⟩, before, after, mid, rfl, hmoved, hrest⟩
  · obtain ⟨-, hnot, -⟩ := ends_transition hthrown
    cases hnot
  · obtain ⟨hbefore, -, lifecycle, rfl⟩ := ends_transition hmoved
    exact ⟨before, after, lifecycle, rfl, hbefore, hrest⟩

/-- What does not throw out of kind comes to an outcome. -/
theorem settle_eq {origin : String} {category : ErrorCategory} {exit : Exit}
    (h : exit ≠ .error .other) :
    (settle origin category exit : Flow E Module Outcome) =
      pure (.ofFailure (exit.failure? origin category)) := by
  rcases exit with (what | _) | (error | _)
  · rfl
  · exact absurd rfl h
  · rfl
  · rfl

/-- If no setter throws, a unit receives all its dependencies. -/
theorem ends_provide_bind {unit : TestUnit} {dependencies : List Dependency}
    (h : ((dependencies.forM fun dependency => do
      Flow.resume (← Flow.request (.provide unit dependency))) >>= f).Ends first trace result last)
    (horderly : Session.Orderly trace) :
    ∃ before after, trace = before ++ after ∧ Session.deeds before = [] ∧
      Session.wirings before = dependencies.map (unit, ·) ∧
      (f ()).Ends first after result last := by
  induction dependencies generalizing trace with
  | nil => exact ⟨[], trace, rfl, rfl, rfl, h⟩
  | cons dependency rest ih =>
    rw [List.forM, bind_assoc, bind_assoc] at h
    obtain ⟨answer, later, rfl, hrest⟩ := Flow.ends_request_bind.mp h
    obtain ⟨hreturned, hlater⟩ := Session.orderly_cons.mp horderly
    obtain rfl : answer = .ok () := hreturned
    obtain ⟨before, after, rfl, hbefore, hwired, hlast⟩ := ih hrest hlater
    exact ⟨_ :: before, after, rfl, hbefore, congrArg ((unit, dependency) :: ·) hwired, hlast⟩

end Module

end Fleet
