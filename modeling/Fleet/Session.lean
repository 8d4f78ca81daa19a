/-!
# Sessions with an outside world

A component never acts on devices, listeners or files by itself: it asks questions and goes on with
the answers. A `Session` is the finite tree of everything it may ask, over an `Interface` that says
which questions exist and what an answer to each looks like. `Session.run` plays a session against
one particular outside, and `Session.Path` relates a session to every conversation it can have, so
a statement about all outsides is a statement about all paths.
-/

namespace Fleet

/-- What may be asked of an outside world, and the type of the answer to each question. -/
structure Interface where
  /-- The questions. -/
  Question : Type
  /-- The answers a question allows. -/
  Answer : Question → Type

namespace Interface

/-- Two outsides side by side: a question goes to one or the other. -/
@[reducible] def sum (P Q : Interface) : Interface where
  Question := P.Question ⊕ Q.Question
  Answer
    | .inl question => P.Answer question
    | .inr question => Q.Answer question

/-- The outside of which nothing can be asked. -/
@[reducible] def silent : Interface where
  Question := Empty
  Answer := nofun

end Interface

/-- A finite conversation plan: either finished, or a question with a plan for each answer. -/
inductive Session (Q : Interface) (α : Type) : Type where
  /-- Nothing more to ask. -/
  | done (result : α)
  /-- Ask, then go on with the answer. -/
  | ask (question : Q.Question) (next : Q.Answer question → Session Q α)

namespace Session

variable {P Q : Interface} {α β : Type}

/-- Run a second plan on the result of the first. -/
protected def bind : Session Q α → (α → Session Q β) → Session Q β
  | done result, f => f result
  | ask question next, f => ask question fun answer => (next answer).bind f

instance : Monad (Session Q) where
  pure := done
  bind := Session.bind

private theorem bind_done (session : Session Q α) : session.bind done = session := by
  induction session with
  | done result => rfl
  | ask question next ih => simp only [Session.bind, ih]

private theorem bind_assoc {γ : Type} (session : Session Q α) (f : α → Session Q β)
    (g : β → Session Q γ) :
    (session.bind f).bind g = session.bind fun a => (f a).bind g := by
  induction session with
  | done result => rfl
  | ask question next ih => simp only [Session.bind, ih]

instance : LawfulMonad (Session Q) :=
  LawfulMonad.mk' (Session Q) bind_done (fun _ _ => rfl) bind_assoc

/-- Ask one question and return its answer. -/
def query (question : Q.Question) : Session Q (Q.Answer question) :=
  ask question done

/-- Play a session against an outside that answers in the monad `m`. -/
def run {m : Type → Type} [Monad m] (answer : (question : Q.Question) → m (Q.Answer question)) :
    Session Q α → m α
  | done result => pure result
  | ask question next => do (next (← answer question)).run answer

/-- Replace every question by a session over another interface. -/
def substitute (f : (question : P.Question) → Session Q (P.Answer question)) :
    Session P α → Session Q α :=
  run f

/-- One question with the answer it got. -/
structure Exchange (Q : Interface) where
  /-- What was asked. -/
  question : Q.Question
  /-- What came back. -/
  answer : Q.Answer question

/-- The conversation `trace` is one this session can have, and it ends with `result`. -/
inductive Path : Session Q α → List (Exchange Q) → α → Prop where
  | done (result : α) : Path (.done result) [] result
  | ask {question : Q.Question} {next : Q.Answer question → Session Q α}
      {answer : Q.Answer question} {trace : List (Exchange Q)} {result : α}
      (rest : Path (next answer) trace result) :
      Path (.ask question next) (⟨question, answer⟩ :: trace) result

end Session

end Fleet
