import Fleet.Proofs.Conversation

/-!
# Calm conversations

A conversation is calm if no listener, no capability setter and no metric collector throws in it.
Most of what a poller does can throw only what one of them has thrown, so in a calm conversation it
throws nothing.
-/

namespace Fleet

namespace Session

variable {E : Interface}

/-- What was asked returned, if it is something that may throw. -/
def Exchange.Returned (exchange : Exchange (World E)) : Prop :=
  match exchange.question, exchange.answer with
  | .inl (.send ..), answer | .inl (.provide ..), answer | .inl (.collectorInit ..), answer =>
    answer = .ok ()
  | _, _ => True

/-- No listener, setter or collector throws. -/
def Calm (trace : List (Exchange (World E))) : Prop :=
  ∀ exchange ∈ trace, exchange.Returned

@[simp] theorem calm_nil : Calm ([] : List (Exchange (World E))) := by
  simp [Calm]

@[simp] theorem calm_cons {exchange : Exchange (World E)} {trace : List (Exchange (World E))} :
    Calm (exchange :: trace) ↔ exchange.Returned ∧ Calm trace :=
  List.forall_mem_cons

@[simp] theorem calm_append {before after : List (Exchange (World E))} :
    Calm (before ++ after) ↔ Calm before ∧ Calm after :=
  List.forall_mem_append

end Session

/-- How a closed run ends can be decided. -/
instance decidableEqExcept {ε α : Type} [DecidableEq ε] [DecidableEq α] :
    DecidableEq (Except ε α)
  | .ok a, .ok b => decidable_of_iff (a = b) (by rw [Except.ok.injEq])
  | .error a, .error b => decidable_of_iff (a = b) (by rw [Except.error.injEq])
  | .ok _, .error _ | .error _, .ok _ => .isFalse nofun

/-- Nothing need be answered where nothing can be asked. -/
def Interface.silence : (question : Interface.silent.Question) → Interface.silent.Answer question :=
  fun question : Empty => question.elim

/-- A unit that receives nothing and cannot report. -/
def TestUnit.plain (id : Nat) (name : String) (tokens : List String) : TestUnit :=
  { id, name, runnerId := name, capabilities := {}, tokens := .ofList tokens }

/-- The answers of an outside where everything goes well and a device holds the tokens that `holds`
says. -/
def Request.obliging (holds : Device → String → Bool) : (question : Request) → question.Answer
  | .log .. | .record .. | .collectorTestStart .. => ()
  | .clock => (0 : Int)
  | .send .. | .provide .. | .collectorInit .. => (.ok () : Except Thrown Unit)
  | .save .. => (.ok { path := "", url := "" } : Except TaskError LogFile)
  | .await .. | .reboot .. => (.ok () : Outcome)
  | .reset .. => true
  | .property .. => (none : Option String)
  | .holdsToken _ device token => holds device token
  | .collectorRunStart .. => (.empty : Metrics)
  | .collectorRunEnd _ metrics | .collectorTestEnd _ _ metrics => metrics
  | .shouldRun .. => RunStrategy.run
  | .setUp .. | .tearDown .. | .setUpAll .. | .tearDownAll .. =>
    (.ok (.ok ()) : Except Thrown Outcome)

namespace Session

variable {E : Interface} {α : Type}

/-- The answers of a world that is obliging outside. -/
def obligingWorld (holds : Device → String → Bool)
    (errand : (question : E.Question) → E.Answer question) :
    (question : (World E).Question) → (World E).Answer question
  | .inl question => question.obliging holds
  | .inr question => errand question

/-- An obliging world throws nothing. -/
theorem calm_converse_obligingWorld (holds : Device → String → Bool)
    (errand : (question : E.Question) → E.Answer question) (session : Work E α) :
    Calm (session.converse (obligingWorld holds errand)).1 := by
  induction session with
  | done result => exact calm_nil
  | ask question next ih =>
    refine calm_cons.mpr ⟨?_, ih _⟩
    rcases question with question | question
    · cases question <;> first | rfl | trivial
    · trivial

end Session

end Fleet
