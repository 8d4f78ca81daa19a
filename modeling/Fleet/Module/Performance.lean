import Fleet.Module.Run

/-!
# Modules as units

A module is a unit like any other: it runs its own units on its own stage and reports to the
listener it is given. What it asks of the outside world becomes an errand of the unit, so units
that are modules need errands that include the outside world.
-/

namespace Fleet

namespace Module

variable {F : Interface}

/-- What a module does with a dependency it receives. -/
def receive (module : Module) : Dependency → Module
  | .build build => { module with build }
  | .device device => { module with device }
  | _ => module

/-- A module's conversation as a performance: events go to the listener in force, all other
questions are errands. -/
def onStage {α : Type} (session : Work (World F) α) : Performance (World F) α :=
  session.substitute answer
where
  /-- Where a question goes. -/
  answer : (question : (World (World F)).Question) →
      Performance (World F) ((World (World F)).Answer question)
    | .inl (.send _ event) => Performance.send event
    | .inl question => Performance.errand (E := World F) (.inl question)
    | .inr errand => Performance.errand (E := World F) errand

/-- Run a module as a unit; the result tells how it ended and what became of it. -/
def perform (conducts : Conducts (World F)) (module : Module) (received : List Dependency) :
    Performance (World F) (Exit × Module) :=
  onStage ((run conducts).run.run (received.foldl receive module))

/-- The conduct of a module that is kept somewhere between its runs: it takes up its state where it
left it. -/
def conduct (id : String) (parts : Conducts (World F)) (kept : Performance (World F) Module)
    (keep : Module → Performance (World F) Unit) : Conduct (World F) where
  options := .ok []
  run received := do
    let (exit, module) ← (← kept).perform parts received
    keep module
    return exit
  reportNotExecuted message := Performance.sendAll (notExecutedEvents id message)

end Module

end Fleet
