import Fleet.Outside

/-!
# Computations that may throw

A `Flow` is a computation over a state that talks to the outside world and may throw. The state
reached so far is kept when it throws, so whoever catches sees every change made before. A unit's
performance is played inside a flow, which answers each of its stage requests.
-/

namespace Fleet

/-- A computation over a state `S` that talks to the outside world and may throw. -/
abbrev Flow (E : Interface) (S : Type) := ExceptT Thrown (StateT S (Session (World E)))

namespace Flow

variable {E : Interface} {S T : Type} {α : Type}

/-- Include a conversation that changes no state and throws nothing. -/
def work (session : Work E α) : Flow E S α :=
  ExceptT.mk fun s => session.bind fun a => .done (.ok a, s)

/-- Ask the outside world. -/
def request (question : Request) : Flow E S question.Answer :=
  work (Fleet.request question)

/-- Return or throw as a finished attempt did. -/
def resume : Except Thrown α → Flow E S α
  | .ok a => pure a
  | .error thrown => throw thrown

/-- Finish a computation and say how it ended, throwing nothing. -/
def attempt (flow : Flow E S α) : Flow E S (Except Thrown α) :=
  ExceptT.mk do return .ok (← flow.run)

/-- Write a log line. -/
def log (level : LogLevel) (trace component event message : String) : Flow E S Unit :=
  work (logLine level trace component event message)

/-- Hand an event to the listener behind an outlet; what the listener throws is thrown. -/
def send (outlet : Nat) (event : Event) : Flow E S Unit := do
  resume (← request (.send outlet event))

/-- Run a computation on a part of the state. -/
def within (part : S → T) (replace : S → T → S) (flow : Flow E T α) : Flow E S α :=
  ExceptT.mk fun s => do
    let (result, t) ← flow.run.run (part s)
    return (result, replace s t)

/-- Play a unit's performance, answering its stage requests with `act`. -/
def perform (act : StageRequest → Flow E S Unit)
    (performance : Performance E (Except Thrown α)) : Flow E S α :=
  ExceptT.mk <| performance.run (answer act)
where
  /-- Answer one request of a performance. -/
  answer (act : StageRequest → Flow E S Unit) :
      (question : (stage.sum E).Question) →
        StateT S (Session (World E)) ((stage.sum E).Answer question)
    | .inl question => (act question).run
    | .inr errand => fun s => .ask (.inr errand) fun answer => .done (answer, s)

end Flow

end Fleet
